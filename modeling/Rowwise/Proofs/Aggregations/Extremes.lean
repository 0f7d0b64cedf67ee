import Rowwise.Proofs.Aggregations.Calls
import Rowwise.Proofs.Numbers.Comparison

/-!
# The largest and the smallest number of a column

A cell counts if it is present and is not a NaN that the flag leaves out.  The largest or smallest
number of a column is MISSING if no cell counts, NaN if a NaN counts, and otherwise a cell of the
column that bounds all its numbers: `Value.IsExtreme`.

The accumulator keeps the best integer and the best float apart, and notes whether it has seen any
number and any NaN.  `Extreme.After` is what these come to after some cells.  Which of two zeros of
different sign it keeps depends on the order of the cells, and nothing else does
(`Value.IsExtreme.reordered`).
-/

namespace Rowwise

open Eval FloatMath

/-! ## Cells that count -/

namespace Value

/-- The value is the FLOAT that is not a number. -/
def IsNaN (v : Value) : Prop := ∃ x : Float, v = .float x ∧ x.isNaN = true

/-- The cell is present, and is not a NaN that is left out. -/
def Counts (ignoreNaN : Bool) (v : Value) : Prop :=
  v ≠ .missing ∧ ¬ (ignoreNaN = true ∧ v.IsNaN)

@[simp] theorem isNaN_float {x : Float} : (float x).IsNaN ↔ x.isNaN = true := by
  constructor
  · rintro ⟨y, same, nan⟩
    cases same
    exact nan
  · exact fun nan => ⟨x, rfl, nan⟩

@[simp] theorem not_isNaN_missing : ¬ missing.IsNaN := fun ⟨_, same, _⟩ => nomatch same

@[simp] theorem not_isNaN_integer {n : Int64} : ¬ (integer n).IsNaN := fun ⟨_, same, _⟩ =>
  nomatch same

/-- The cell is MISSING or a number or NaN. -/
def IsNumeric (v : Value) : Prop := v = .missing ∨ (∃ n, v = .integer n) ∨ ∃ x, v = .float x

/-- The cell is MISSING or of the kind of its column. -/
def FitsIn (type : ValueType) (v : Value) : Prop := v = .missing ∨ v.kind? = type.base

variable {v : Value} {type : ValueType}

/-- A cell of a column of some kind. -/
theorem FitsIn.ofKind {k : Kind} (h : v.FitsIn type) (base : type.base = some k) :
    v = .missing ∨ ∃ a, v = .of k a := by
  rcases h with missing | same
  · exact .inl missing
  · rw [base] at same
    cases v with
    | missing => cases same
    | of l a =>
        cases same
        exact .inr ⟨a, rfl⟩

/-- A cell of a numeric column. -/
theorem FitsIn.numeric (h : v.FitsIn type)
    (base : type.base = some .integer ∨ type.base = some .float) : v.IsNumeric := by
  rcases base with base | base
  · exact (h.ofKind base).imp_right .inl
  · exact (h.ofKind base).imp_right .inr

end Value

/-- Columns of which a largest number is asked for are numeric. -/
theorem Aggregation.numeric_of_returnType {a : Aggregation} {type result : ValueType}
    (numeric : a.statistic ≠ .count) (rule : a.returnType type = .ok result) :
    type.base = some .integer ∨ type.base = some .float := by
  unfold returnType at rule
  cases type with
  | missing =>
      cases hs : a.statistic <;> rw [hs] at rule
      case count => exact absurd hs numeric
      all_goals cases rule
  | of k o =>
      cases hs : a.statistic <;> rw [hs] at rule
      case count => exact absurd hs numeric
      all_goals cases k <;> first | exact .inl rfl | exact .inr rfl | cases rule

/-! ## The best of a list -/

/-- A number is within the bound of another one, from above or from below. -/
def Within (largest : Bool) (r s : EReal) : Prop := if largest then r ≤ s else s ≤ r

theorem Within.refl (largest : Bool) (r : EReal) : Within largest r r := by
  cases largest <;> exact le_rfl

theorem Within.trans {largest : Bool} {r s u : EReal} (h : Within largest r s)
    (h' : Within largest s u) : Within largest r u := by
  cases largest with
  | true => exact le_trans (α := EReal) h h'
  | false => exact le_trans (α := EReal) h' h

theorem Within.antisymm {largest : Bool} {r s : EReal} (h : Within largest r s)
    (h' : Within largest s r) : r = s := by
  cases largest with
  | true => exact le_antisymm (α := EReal) h h'
  | false => exact le_antisymm (α := EReal) h' h

section Best

variable {α : Type} {number : α → EReal} {largest : Bool} {xs : List α} {best : Option α} {x : α}

/-- An element of the list that bounds all of them, if there are any. -/
def Best (number : α → EReal) (largest : Bool) (xs : List α) : Option α → Prop
  | none => xs = []
  | some b => b ∈ xs ∧ ∀ x ∈ xs, Within largest (number x) (number b)

/-- The better one of the best and one more element is the best of all. -/
theorem Best.concat {choose : α → α → α} (h : Best number largest xs best)
    (better : ∀ b ∈ xs, (choose b x = b ∨ choose b x = x) ∧
      Within largest (number b) (number (choose b x)) ∧
      Within largest (number x) (number (choose b x))) :
    Best number largest (xs ++ [x]) (some ((best.map fun b => choose b x).getD x)) := by
  cases best with
  | none =>
      obtain rfl : xs = [] := h
      exact ⟨List.mem_singleton_self x, List.forall_mem_singleton.mpr (.refl _ _)⟩
  | some b =>
      obtain ⟨member, bound⟩ := h
      obtain ⟨one, best, new⟩ := better b member
      refine ⟨?_, List.forall_mem_append.mpr ⟨fun y hy => (bound y hy).trans best,
        List.forall_mem_singleton.mpr new⟩⟩
      rw [Option.map_some, Option.getD_some]
      rcases one with same | same <;> rw [same]
      · exact List.mem_append_left _ member
      · exact List.mem_append_right _ (List.mem_singleton_self x)

end Best

/-! ## The accumulator -/

namespace Value

/-- The integers among the cells. -/
def integers (cells : List Value) : List Int64 := cells.filterMap (·.as? .integer)

/-- The floats among the cells that are numbers. -/
def floats (cells : List Value) : List Float :=
  (cells.filterMap (·.as? .float)).filter fun x => !x.isNaN

theorem integers_append (cells more : List Value) :
    integers (cells ++ more) = integers cells ++ integers more := List.filterMap_append

theorem floats_append (cells more : List Value) :
    floats (cells ++ more) = floats cells ++ floats more := by
  rw [floats, List.filterMap_append, List.filter_append]
  rfl

theorem as?_eq_some {k : Kind} {v : Value} {a : k.Carrier} : v.as? k = some a ↔ v = .of k a := by
  constructor
  · intro found
    cases v with
    | missing => cases found
    | of l b =>
        rw [as?] at found
        split at found
        · next same =>
            cases same
            cases found
            rfl
        · cases found
  · rintro rfl
    exact as?_of k a

theorem mem_integers {cells : List Value} {n : Int64} :
    n ∈ integers cells ↔ .integer n ∈ cells := by
  rw [integers, List.mem_filterMap]
  constructor
  · rintro ⟨v, member, found⟩
    obtain rfl : v = .integer n := as?_eq_some.mp found
    exact member
  · exact fun member => ⟨_, member, as?_of .integer n⟩

theorem mem_floats {cells : List Value} {x : Float} :
    x ∈ floats cells ↔ .float x ∈ cells ∧ x.isNaN = false := by
  rw [floats, List.mem_filter, List.mem_filterMap, Bool.not_eq_true']
  refine and_congr_left fun _ => ?_
  constructor
  · rintro ⟨v, member, found⟩
    obtain rfl : v = .float x := as?_eq_some.mp found
    exact member
  · exact fun member => ⟨_, member, as?_of .float x⟩

theorem exists_mem_concat {p : Value → Prop} {cells : List Value} {v : Value} :
    (∃ w ∈ cells ++ [v], p w) ↔ (∃ w ∈ cells, p w) ∨ p v := by
  simp only [List.mem_append, List.mem_singleton, or_and_right, exists_or, exists_eq_left]

end Value

namespace Extreme

open Value

variable {start e : Extreme} {cells : List Value} {v : Value}

/-- Of two integers the better one is kept. -/
theorem better_spec (e : Extreme) (a b : Int64) :
    (e.better a b = a ∨ e.better a b = b) ∧
      Within e.largest (Value.integer a).number (Value.integer (e.better a b)).number ∧
      Within e.largest (Value.integer b).number (Value.integer (e.better a b)).number := by
  have order (n k : Int64) : (Value.integer n).number ≤ (Value.integer k).number ↔ n ≤ k := by
    rw [Int64.le_iff_toInt_le, Value.number, Value.number, EReal.coe_le_coe_iff, Int.cast_le]
  have total : a ≤ b ∨ b ≤ a := by
    rw [Int64.le_iff_toInt_le, Int64.le_iff_toInt_le]
    exact le_total _ _
  unfold better Within
  cases e.largest with
  | true =>
      change (_ = a ∨ _ = b) ∧ _ ≤ _ ∧ _ ≤ _
      rw [order, order]
      change ((if a ≤ b then b else a) = a ∨ (if a ≤ b then b else a) = b) ∧
        a ≤ (if a ≤ b then b else a) ∧ b ≤ (if a ≤ b then b else a)
      split
      · next le => exact ⟨.inr rfl, le, Int64.le_refl b⟩
      · next gt => exact ⟨.inl rfl, Int64.le_refl a, total.resolve_left gt⟩
  | false =>
      change (_ = a ∨ _ = b) ∧ _ ≤ _ ∧ _ ≤ _
      rw [order, order]
      change ((if a ≤ b then a else b) = a ∨ (if a ≤ b then a else b) = b) ∧
        (if a ≤ b then a else b) ≤ a ∧ (if a ≤ b then a else b) ≤ b
      split
      · next le => exact ⟨.inl rfl, Int64.le_refl a, le⟩
      · next gt => exact ⟨.inr rfl, total.resolve_left gt, Int64.le_refl b⟩

/-- Of two floats the better one is kept. -/
theorem betterFloat_spec (e : Extreme) {x y : Float} (hx : x.isNaN = false) (hy : y.isNaN = false) :
    (e.betterFloat x y = x ∨ e.betterFloat x y = y) ∧
      Within e.largest (number x) (number (e.betterFloat x y)) ∧
      Within e.largest (number y) (number (e.betterFloat x y)) := by
  unfold betterFloat FloatMath.max FloatMath.min Within
  simp only [hx, hy, Bool.false_eq_true, if_false, lt_iff_number hx hy, lt_iff_number hy hx]
  cases e.largest with
  | true =>
      simp only [if_true]
      split
      · next less => exact ⟨.inr rfl, less.le, le_rfl⟩
      · next ge => exact ⟨.inl rfl, le_rfl, not_lt.mp ge⟩
  | false =>
      simp only [Bool.false_eq_true, if_false]
      split
      · next less => exact ⟨.inr rfl, less.le, le_rfl⟩
      · next ge => exact ⟨.inl rfl, le_rfl, not_lt.mp ge⟩

/-- What has become of an accumulator after some cells of a numeric column. -/
structure After (start : Extreme) (cells : List Value) (e : Extreme) : Prop where
  largest : e.largest = start.largest
  ignoreNaN : e.ignoreNaN = start.ignoreNaN
  seen : e.seen = true ↔ ∃ v ∈ cells, v ≠ .missing
  sawNaN : e.sawNaN = true ↔ ∃ v ∈ cells, v.IsNaN
  integer : Best (fun n => (Value.integer n).number) start.largest (integers cells) e.integer
  float : Best FloatMath.number start.largest (floats cells) e.float

theorem after_nil (name : String) (isFloat ignoreNaN largest : Bool) :
    After { name, isFloat, ignoreNaN, largest } [] { name, isFloat, ignoreNaN, largest } where
  largest := rfl
  ignoreNaN := rfl
  seen := iff_of_false Bool.false_ne_true fun ⟨_, empty, _⟩ => List.not_mem_nil empty
  sawNaN := iff_of_false Bool.false_ne_true fun ⟨_, empty, _⟩ => List.not_mem_nil empty
  integer := (rfl : integers [] = [])
  float := (rfl : floats [] = [])

theorem After.add_missing (h : After start cells e) : After start (cells ++ [.missing]) e where
  largest := h.largest
  ignoreNaN := h.ignoreNaN
  seen := by simp [h.seen]
  sawNaN := by simp [h.sawNaN]
  integer := by
    rw [integers_append]
    exact (List.append_nil _).symm ▸ h.integer
  float := by
    rw [floats_append]
    exact (List.append_nil _).symm ▸ h.float

theorem After.add_integer (h : After start cells e) (n : Int64) :
    After start (cells ++ [.integer n]) (e.add (.integer n)) where
  largest := h.largest
  ignoreNaN := h.ignoreNaN
  seen := by simp [Extreme.add]
  sawNaN := by simp [Extreme.add, h.sawNaN]
  integer := by
    rw [integers_append]
    exact h.integer.concat fun b _ => h.largest ▸ e.better_spec b n
  float := by
    rw [floats_append]
    exact (List.append_nil _).symm ▸ h.float

theorem After.add_float (h : After start cells e) (x : Float) :
    After start (cells ++ [.float x]) (e.add (.float x)) := by
  have integers : Value.integers (cells ++ [.float x]) = Value.integers cells := by
    rw [integers_append]
    exact List.append_nil _
  -- A NaN only marks the state; a number is compared with the best one so far.
  rw [Extreme.add]
  split
  · next nan =>
      have floats : floats (cells ++ [.float x]) = floats cells := by
        have none : Value.floats [.float x] = [] := List.filter_cons_of_neg (by rw [nan]; decide)
        rw [floats_append, none, List.append_nil]
      exact {
        largest := h.largest
        ignoreNaN := h.ignoreNaN
        seen := by simp
        sawNaN := by
          rw [exists_mem_concat, Value.isNaN_float]
          exact iff_of_true rfl (.inr nan)
        integer := integers ▸ h.integer
        float := floats ▸ h.float }
  · next nan =>
      have number : x.isNaN = false := Bool.eq_false_iff.mpr nan
      have floats : floats (cells ++ [.float x]) = floats cells ++ [x] := by
        have one : Value.floats [.float x] = [x] := List.filter_cons_of_pos (by rw [number]; rfl)
        rw [floats_append, one]
      exact {
        largest := h.largest
        ignoreNaN := h.ignoreNaN
        seen := by simp
        sawNaN := by
          rw [exists_mem_concat, Value.isNaN_float, ← h.sawNaN]
          exact (or_iff_left nan).symm
        integer := integers ▸ h.integer
        float := floats ▸ h.float.concat fun y hy =>
          h.largest ▸ e.betterFloat_spec (mem_floats.mp hy).2 number }

/-- The whole column. -/
theorem After.foldl (start : After e [] e) (numeric : ∀ v ∈ cells, v.IsNumeric) :
    ∃ e', cells.foldl Accumulator.add (.extreme e) = .extreme e' ∧ After e cells e' := by
  induction cells using List.reverseRecOn with
  | nil => exact ⟨e, rfl, start⟩
  | append_singleton cells v ih =>
      obtain ⟨before, last⟩ := List.forall_mem_append.mp numeric
      obtain ⟨e', folded, after⟩ := ih before
      refine ⟨e'.add v, by rw [List.foldl_append, folded]; rfl, ?_⟩
      rcases List.forall_mem_singleton.mp last with rfl | ⟨n, rfl⟩ | ⟨x, rfl⟩
      · exact after.add_missing
      · exact after.add_integer n
      · exact after.add_float x

end Extreme

/-! ## The result -/

namespace Value

/-- The value is the largest or the smallest number of the column, with NaN and MISSING where they
stand for it. -/
structure IsExtreme (largest ignoreNaN : Bool) (cells : List Value) (v : Value) : Prop where
  missing : v = .missing ↔ ∀ w ∈ cells, ¬ w.Counts ignoreNaN
  nan : v.IsNaN ↔ ignoreNaN = false ∧ ∃ w ∈ cells, w.IsNaN
  number : v ≠ .missing → ¬ v.IsNaN →
    v ∈ cells ∧ v.IsNumber ∧ ∀ w ∈ cells, w.IsNumber → Within largest w.number v.number

variable {largest ignoreNaN : Bool} {cells : List Value} {v w : Value}

theorem counts_of_isNaN (kept : ignoreNaN = false) (nan : v.IsNaN) : v.Counts ignoreNaN := by
  obtain ⟨x, rfl, _⟩ := nan
  exact ⟨nofun, fun left => by rw [kept] at left; cases left.1⟩

theorem not_isNaN_of_isNumber (number : v.IsNumber) : ¬ v.IsNaN := by
  cases number with
  | integer => exact not_isNaN_integer
  | float number => exact fun nan => Bool.eq_false_iff.mp number (Value.isNaN_float.mp nan)

theorem ne_missing_of_isNumber (number : v.IsNumber) : v ≠ .missing := by
  cases number <;> nofun

theorem counts_of_isNumber (number : v.IsNumber) : v.Counts ignoreNaN :=
  ⟨ne_missing_of_isNumber number, fun left => not_isNaN_of_isNumber number left.2⟩

theorem isExtreme_missing (none : ∀ w ∈ cells, ¬ w.Counts ignoreNaN) :
    IsExtreme largest ignoreNaN cells .missing where
  missing := iff_of_true rfl none
  nan := iff_of_false not_isNaN_missing fun ⟨kept, w, member, nan⟩ =>
    none w member (counts_of_isNaN kept nan)
  number present := absurd rfl present

theorem isExtreme_nan (kept : ignoreNaN = false) (member : w ∈ cells) (nan : w.IsNaN) :
    IsExtreme largest ignoreNaN cells (.float FloatMath.nan) where
  missing := iff_of_false nofun fun none => none w member (counts_of_isNaN kept nan)
  nan := iff_of_true ⟨_, rfl, rfl⟩ ⟨kept, w, member, nan⟩
  number _ number := absurd ⟨_, rfl, rfl⟩ number

theorem isExtreme_number (member : v ∈ cells) (number : v.IsNumber)
    (bound : ∀ w ∈ cells, w.IsNumber → Within largest w.number v.number)
    (left : ignoreNaN = true ∨ ∀ w ∈ cells, ¬ w.IsNaN) :
    IsExtreme largest ignoreNaN cells v where
  missing := iff_of_false (ne_missing_of_isNumber number) fun none =>
    none v member (counts_of_isNumber number)
  nan := iff_of_false (not_isNaN_of_isNumber number) fun ⟨kept, w, there, nan⟩ =>
    left.elim (fun ignored => by rw [ignored] at kept; cases kept) fun none => none w there nan
  number _ _ := ⟨member, number, bound⟩

end Value

namespace Extreme

open Value

variable {start e : Extreme} {cells : List Value}

/-- Without a present cell the result is MISSING. -/
theorem After.result_unseen (h : After start cells e) (unseen : ¬ e.seen = true) :
    IsExtreme start.largest start.ignoreNaN cells .missing ∧
      ∀ m, (Accumulator.extreme e).result.value.Answers m (.ok .missing) := by
  refine ⟨isExtreme_missing fun w member counts => unseen (h.seen.mpr ⟨w, member, counts.1⟩),
    fun m => ?_⟩
  rw [Accumulator.result, Bool.eq_false_iff.mpr unseen, if_pos (by decide)]
  exact Accumulator.answers_missingResult _ _ m

/-- The result for an INTEGER column. -/
theorem After.result_integer (h : After start cells e)
    (integers : ∀ v ∈ cells, v = .missing ∨ ∃ n, v = .integer n) :
    ∃ v, IsExtreme start.largest start.ignoreNaN cells v ∧
      ∀ m, (Accumulator.extreme e).result.value.Answers m (.ok v) := by
  by_cases seen : e.seen = true
  · have best := h.integer
    cases found : e.integer with
    | none =>
        rw [found] at best
        have none : Value.integers cells = [] := best
        obtain ⟨v, member, present⟩ := h.seen.mp seen
        obtain ⟨n, rfl⟩ := (integers v member).resolve_left present
        exact absurd (none ▸ mem_integers.mpr member) List.not_mem_nil
    | some b =>
        rw [found] at best
        obtain ⟨member, bound⟩ := best
        refine ⟨.integer b, isExtreme_number (mem_integers.mp member) (.integer b) ?_ (.inr ?_),
          fun m => ?_⟩
        · intro w there number
          rcases integers w there with rfl | ⟨n, rfl⟩
          · cases number
          · exact bound n (mem_integers.mpr there)
        · intro w there nan
          rcases integers w there with rfl | ⟨n, rfl⟩
          · exact not_isNaN_missing nan
          · exact not_isNaN_integer nan
        · rw [Accumulator.result, seen, found, if_neg (by decide)]
          exact (Computer.constant_holds _).value
  · exact ⟨_, h.result_unseen seen⟩

/-- The best integer would win over the floats, but in a FLOAT column there is none. -/
theorem After.no_integer (h : After start cells e)
    (floats : ∀ v ∈ cells, v = .missing ∨ ∃ x, v = .float x) : e.integer = none := by
  have best := h.integer
  cases found : e.integer with
  | none => rfl
  | some n =>
      rw [found] at best
      rcases floats _ (mem_integers.mp best.1) with same | ⟨x, same⟩ <;> cases same

/-- Unless NaN decides over the result, it is ignored or there is none. -/
theorem After.nan_left (h : After start cells e) (undecided : ¬ (e.sawNaN && !e.ignoreNaN) = true) :
    start.ignoreNaN = true ∨ ∀ w ∈ cells, ¬ w.IsNaN := by
  rw [← h.ignoreNaN]
  by_contra other
  push Not at other
  obtain ⟨ignore, w, member, nan⟩ := other
  have saw := h.sawNaN.mpr ⟨w, member, nan⟩
  exact undecided (by rw [saw, Bool.eq_false_iff.mpr ignore]; rfl)

/-- If NaN decides over the result, the result is NaN. -/
theorem After.result_nan (h : After start cells e) (noInteger : e.integer = none)
    (seen : e.seen = true) (decided : (e.sawNaN && !e.ignoreNaN) = true) :
    IsExtreme start.largest start.ignoreNaN cells (.float FloatMath.nan) ∧
      ∀ m, (Accumulator.extreme e).result.value.Answers m (.ok (.float FloatMath.nan)) := by
  obtain ⟨saw, ignore⟩ := Bool.and_eq_true_iff.mp decided
  obtain ⟨w, member, nan⟩ := h.sawNaN.mp saw
  have kept : start.ignoreNaN = false := h.ignoreNaN ▸ (Bool.not_eq_true' _).mp ignore
  refine ⟨isExtreme_nan kept member nan, fun m => ?_⟩
  rw [Accumulator.result, seen, noInteger, if_neg (by decide)]
  dsimp only
  rw [if_pos decided]
  exact (Computer.constant_holds _).value

/-- The result for a FLOAT column. -/
theorem After.result_float (h : After start cells e)
    (floats : ∀ v ∈ cells, v = .missing ∨ ∃ x, v = .float x) :
    ∃ v, IsExtreme start.largest start.ignoreNaN cells v ∧
      ∀ m, (Accumulator.extreme e).result.value.Answers m (.ok v) := by
  have noInteger := h.no_integer floats
  by_cases seen : e.seen = true
  · by_cases decided : (e.sawNaN && !e.ignoreNaN) = true
    · exact ⟨_, h.result_nan noInteger seen decided⟩
    · have left := h.nan_left decided
      have best := h.float
      cases found : e.float with
      | none =>
          rw [found] at best
          have none : Value.floats cells = [] := best
          refine ⟨.missing, isExtreme_missing fun w member counts => ?_, fun m => ?_⟩
          · -- What is present is a NaN that is left out.
            obtain ⟨x, rfl⟩ := (floats w member).resolve_left counts.1
            by_cases nan : x.isNaN = true
            · have ignore := left.resolve_right fun none =>
                none _ member (Value.isNaN_float.mpr nan)
              exact counts.2 ⟨ignore, Value.isNaN_float.mpr nan⟩
            · have number := mem_floats.mpr ⟨member, Bool.eq_false_iff.mpr nan⟩
              exact absurd (none ▸ number) List.not_mem_nil
          · rw [Accumulator.result, seen, noInteger, found, if_neg (by decide)]
            dsimp only
            rw [if_neg decided]
            exact Accumulator.answers_missingResult _ _ m
      | some b =>
          -- The best of the floats bounds all of them, and no other kind counts.
          rw [found] at best
          obtain ⟨member, bound⟩ := best
          obtain ⟨there, number⟩ := mem_floats.mp member
          refine ⟨.float b, isExtreme_number there (.float number) ?_ left, fun m => ?_⟩
          · intro w member' number'
            rcases floats w member' with rfl | ⟨x, rfl⟩
            · cases number'
            · cases number' with
              | float number' => exact bound x (mem_floats.mpr ⟨member', number'⟩)
          · rw [Accumulator.result, seen, noInteger, found, if_neg (by decide)]
            dsimp only
            rw [if_neg decided]
            exact (Computer.constant_holds _).value
  · exact ⟨_, h.result_unseen seen⟩

end Extreme

/-! ## Other orders of the rows -/

section Reordered

variable {largest ignoreNaN : Bool} {cells order : List Value} {type : ValueType} {v w : Value}

/-- The values are zeros of different sign. -/
def Value.OppositeZeros (v w : Value) : Prop :=
  v = .float 0.0 ∧ w = .float (-0.0) ∨ v = .float (-0.0) ∧ w = .float 0.0

/-- All NaN cells are the same. -/
theorem Value.eq_of_isNaN (hv : v.IsNaN) (hw : w.IsNaN) : v = w := by
  obtain ⟨x, rfl, hx⟩ := hv
  obtain ⟨y, rfl, hy⟩ := hw
  rw [Float.isNaN_eq_decide_eq_nan, decide_eq_true_eq] at hx hy
  rw [hx, hy]

/-- Two cells of a column with one number are the same, but for the sign of zero. -/
theorem Value.FitsIn.eq_or_zeros (hv : v.FitsIn type) (hw : w.FitsIn type) (numbered : v.IsNumber)
    (numbered' : w.IsNumber) (same : v.number = w.number) : v = w ∨ v.OppositeZeros w := by
  cases numbered with
  | integer n =>
      cases numbered' with
      | integer k =>
          have same : n.toInt = k.toInt := by
            rwa [number, number, EReal.coe_eq_coe_iff, Int.cast_inj] at same
          exact .inl (congrArg Value.integer (Int64.toInt_inj.mp same))
      | float =>
          obtain ⟨⟩ := (hv.resolve_left nofun).trans (hw.resolve_left nofun).symm
  | float hx =>
      cases numbered' with
      | integer =>
          obtain ⟨⟩ := (hv.resolve_left nofun).trans (hw.resolve_left nofun).symm
      | float hy =>
          rcases FloatMath.eq_or_zeros hx hy same with rfl | ⟨rfl, rfl⟩ | ⟨rfl, rfl⟩
          · exact .inl rfl
          · exact .inr (.inl ⟨rfl, rfl⟩)
          · exact .inr (.inr ⟨rfl, rfl⟩)

/-- In another order of the rows the number is the same, but for the sign of zero. -/
theorem Value.IsExtreme.reordered (hv : v.IsExtreme largest ignoreNaN cells)
    (hw : w.IsExtreme largest ignoreNaN order) (same : order.Perm cells)
    (fits : ∀ u ∈ cells, u.FitsIn type) : v = w ∨ v.OppositeZeros w := by
  have missing : v = .missing ↔ w = .missing := by
    rw [hv.missing, hw.missing]
    exact forall_congr' fun u => by rw [same.mem_iff]
  have nan : v.IsNaN ↔ w.IsNaN := by
    rw [hv.nan, hw.nan]
    exact and_congr_right fun _ => exists_congr fun u => by rw [same.mem_iff]
  by_cases gone : v = .missing
  · exact .inl (gone.trans (missing.mp gone).symm)
  · by_cases lost : v.IsNaN
    · exact .inl (Value.eq_of_isNaN lost (nan.mp lost))
    · obtain ⟨member, numbered, bound⟩ := hv.number gone lost
      obtain ⟨member', numbered', bound'⟩ := hw.number (gone ∘ missing.mpr) (lost ∘ nan.mpr)
      -- Each of the two is a cell of the other column and bounds it, so their numbers are equal.
      have here := same.mem_iff.mp member'
      have there := same.mem_iff.mpr member
      exact (fits v member).eq_or_zeros (fits w here) numbered numbered'
        ((bound' v there numbered).antisymm (bound w here numbered'))

end Reordered

/-! ## Calls -/

section Calls

variable {t : Table} {vars : FlowVariables} {e : Expr} {flag largest : Bool} {type : ValueType}
  {cells : List Value}

namespace Extreme

/-- The name of the aggregation. -/
def called (largest : Bool) : String := if largest then "COLUMN_MAX" else "COLUMN_MIN"

/-- The accumulator of a call before the first cell. -/
theorem accumulator_called {a : Aggregation} {bound : Arguments Value}
    (known : Aggregation.library.get? (called largest) = some a)
    (flagged : bound.get? a.flagName = some (.boolean flag)) (base : Base) :
    a.accumulator bound base = .extreme
      { name := called largest, isFloat := base != some .integer, ignoreNaN := flag, largest } := by
  refine (Aggregation.accumulator_flagged flagged base).trans ?_
  cases largest <;> cases known <;> rfl

theorem statistic_called {a : Aggregation}
    (known : Aggregation.library.get? (called largest) = some a) : a.statistic ≠ .count := by
  cases largest <;> cases known <;> decide

end Extreme

/-- A call has the largest or smallest number of its column. -/
theorem Expr.Aggregates.answersOver_extreme
    (call : e.Aggregates t vars (Extreme.called largest) flag type cells)
    (fits : ∀ v ∈ cells, v.FitsIn type) :
    ∃ v, v.IsExtreme largest flag cells ∧ e.AnswersOver t vars (.ok v) := by
  obtain ⟨a, bound, _, known, rule, flagged, built⟩ := call.computer
  have fresh := Extreme.after_nil (Extreme.called largest) (type.base != some .integer) flag largest
  rw [Extreme.accumulator_called known flagged] at built
  have numeric := Aggregation.numeric_of_returnType (Extreme.statistic_called known) rule
  obtain ⟨e', folded, after⟩ := fresh.foldl fun v hv => (fits v hv).numeric numeric
  rcases numeric with base | base
  · obtain ⟨v, extreme, answers⟩ := after.result_integer fun v hv => (fits v hv).ofKind base
    exact ⟨v, extreme, _, folded ▸ built, answers⟩
  · obtain ⟨v, extreme, answers⟩ := after.result_float fun v hv => (fits v hv).ofKind base
    exact ⟨v, extreme, _, folded ▸ built, answers⟩

end Calls

end Rowwise
