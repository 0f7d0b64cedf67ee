import Rowwise.Proofs.Functions.ConditionalForms
import Rowwise.Proofs.Numbers.Widening

/-!
# Numbers are compared by value

A comparison of two numbers goes by their exact values, once an INTEGER that stands beside a FLOAT
has become the nearest FLOAT (`BinaryOp.Relates`).  The orderings follow the total order of floats,
in which negative zero comes before positive zero; the equalities take the two for one number.

`Meaning.binary_comparison` says so of values, and `Expr.numbers_compared` of expressions, together
with what follows.  The orderings and `==` fit together but for zeros of different sign
(`Value.trichotomy`).  An order of three numbers can only be lost where two INTEGERs stand on both
sides of a FLOAT that both of them become (`Value.le_trans`).
-/

namespace Rowwise

open Eval Typing Functions FloatMath

/-! ## Numbers -/

namespace Value

/-- An INTEGER, or a FLOAT other than NaN. -/
inductive IsNumber : Value → Prop where
  | integer (n : Int64) : IsNumber (.integer n)
  | float {x : Float} (number : x.isNaN = false) : IsNumber (.float x)

/-- The exact number of an INTEGER or of a FLOAT. -/
noncomputable def number : Value → EReal
  | .of .integer n => ((n.toInt : ℝ) : EReal)
  | .of .float x => FloatMath.number x
  | _ => 0

/-- The number that a value counts as beside another one: an INTEGER beside a FLOAT counts as the
FLOAT that it becomes. -/
noncomputable def numberBeside (v w : Value) : EReal := (v.widen w.kind?).number

/-- The value is ordered before the other one: its number is less, or it is negative zero and the
other one is another zero. -/
def Precedes (v w : Value) : Prop :=
  v.numberBeside w < w.numberBeside v ∨
    v.numberBeside w = w.numberBeside v ∧ v = .float (-0.0) ∧ w ≠ .float (-0.0)

/-- Both values are zeros, and one of them is negative zero. -/
def ZerosApart (v w : Value) : Prop :=
  v.numberBeside w = w.numberBeside v ∧ (v = .float (-0.0) ↔ w ≠ .float (-0.0))

end Value

namespace Value

@[simp] theorem numberBeside_integers (n k : Int64) :
    (integer n).numberBeside (integer k) = ((n.toInt : ℝ) : EReal) := rfl

@[simp] theorem numberBeside_integer_float (n : Int64) (y : Float) :
    (integer n).numberBeside (float y) = FloatMath.number (Integer.toFloat n) := rfl

@[simp] theorem numberBeside_float (x : Float) (w : Value) :
    (float x).numberBeside w = FloatMath.number x := rfl

end Value

/-- The relation between numbers that a comparison stands for. -/
def BinaryOp.Relates : BinaryOp → Value → Value → Prop
  | .lessThan, v, w => v.Precedes w
  | .lessThanEqual, v, w => ¬ w.Precedes v
  | .greaterThan, v, w => w.Precedes v
  | .greaterThanEqual, v, w => ¬ v.Precedes w
  | .equal, v, w => v.numberBeside w = w.numberBeside v
  | .notEqual, v, w => v.numberBeside w ≠ w.numberBeside v
  | _, _, _ => False

/-- The operator is an ordering or an equality. -/
def BinaryOp.IsComparison (op : BinaryOp) : Prop := op.isOrdering = true ∨ op.isEquality = true

/-! ## Comparisons of values -/

section Values

variable {v w u : Value}

theorem Meaning.order_integers (n k : Int64) :
    ∃ o, Meaning.order (.integer n) (.integer k) = some o ∧
      (o = .lt ↔ n.toInt < k.toInt) ∧ (o = .gt ↔ k.toInt < n.toInt) := by
  refine ⟨compare n k, rfl, ?_, ?_⟩
  · rw [Std.compare_eq_lt, Int64.lt_iff_toInt_lt]
  · rw [Std.compare_eq_gt, Int64.lt_iff_toInt_lt]

theorem FloatMath.totalCompare_eq_lt {x y : Float} (hx : x.isNaN = false) (hy : y.isNaN = false) :
    totalCompare x y = .lt ↔
      FloatMath.number x < FloatMath.number y ∨
        FloatMath.number x = FloatMath.number y ∧ x = -0.0 ∧ y ≠ -0.0 := by
  rw [totalCompare, compare_lt_iff_lt, totalKey_lt_iff hx hy]

theorem FloatMath.totalCompare_eq_gt {x y : Float} (hx : x.isNaN = false) (hy : y.isNaN = false) :
    totalCompare x y = .gt ↔
      FloatMath.number y < FloatMath.number x ∨
        FloatMath.number y = FloatMath.number x ∧ y = -0.0 ∧ x ≠ -0.0 := by
  rw [totalCompare, compare_gt_iff_gt, totalKey_lt_iff hy hx]

/-- Numbers are ordered by what they count as beside each other. -/
theorem Meaning.order_numbers (hv : v.IsNumber) (hw : w.IsNumber) :
    ∃ o, Meaning.order v w = some o ∧ (o = .lt ↔ v.Precedes w) ∧ (o = .gt ↔ w.Precedes v) := by
  cases hv with
  | integer n =>
      cases hw with
      | integer k =>
          obtain ⟨o, ordered, lt, gt⟩ := Meaning.order_integers n k
          refine ⟨o, ordered, lt.trans ?_, gt.trans ?_⟩ <;> simp [Value.Precedes]
      | float hy =>
          -- An INTEGER never becomes a negative zero, so the number alone decides on its side.
          have hx := Integer.isNaN_toFloat n
          refine ⟨_, rfl, (totalCompare_eq_lt hx hy).trans ?_,
            (totalCompare_eq_gt hx hy).trans ?_⟩ <;>
            simp [Value.Precedes, Integer.toFloat_ne_negativeZero]
  | float hx =>
      cases hw with
      | integer k =>
          have hy := Integer.isNaN_toFloat k
          refine ⟨_, rfl, (totalCompare_eq_lt hx hy).trans ?_,
            (totalCompare_eq_gt hx hy).trans ?_⟩ <;>
            simp [Value.Precedes, Integer.toFloat_ne_negativeZero]
      | float hy =>
          refine ⟨_, rfl, (totalCompare_eq_lt hx hy).trans ?_,
            (totalCompare_eq_gt hx hy).trans ?_⟩ <;> simp [Value.Precedes]

/-- Numbers are equal if they count as the same beside each other. -/
theorem Meaning.equality_numbers (hv : v.IsNumber) (hw : w.IsNumber) :
    Meaning.equality v w = true ↔ v.numberBeside w = w.numberBeside v := by
  cases hv with
  | integer n =>
      cases hw with
      | integer k =>
          have same : Meaning.equality (.integer n) (.integer k) = (n == k) := rfl
          rw [same, beq_iff_eq, ← Int64.toInt_inj]
          simp
      | float hy => exact beq_iff_number (Integer.isNaN_toFloat n) hy
  | float hx =>
      cases hw with
      | integer k => exact (beq_iff_number (Integer.isNaN_toFloat k) hx).trans eq_comm
      | float hy => exact beq_iff_number hx hy

theorem Meaning.ordering_numbers (hv : v.IsNumber) (hw : w.IsNumber) (op : BinaryOp) :
    Meaning.ordering op v w = (Meaning.order v w).any (Meaning.accepts op) := by
  cases hv <;> cases hw <;> rfl

/-- A comparison of two numbers is true where the relation holds that it stands for. -/
theorem Meaning.binary_comparison {op : BinaryOp} (comparison : op.IsComparison)
    (hv : v.IsNumber) (hw : w.IsNumber) (output : Base) :
    ∃ t, Meaning.binary op output v w = some (.boolean t) ∧ (t = true ↔ op.Relates v w) := by
  obtain ⟨o, ordered, lt, gt⟩ := Meaning.order_numbers hv hw
  have equal := Meaning.equality_numbers hv hw
  have ordering (op : BinaryOp) : Meaning.ordering op v w = Meaning.accepts op o := by
    rw [Meaning.ordering_numbers hv hw, ordered, Option.any_some]
  cases op
  case lessThan =>
    refine ⟨_, congrArg (some ∘ Value.boolean) (ordering _), ?_⟩
    rw [BinaryOp.Relates, ← lt]
    cases o <;> decide
  case lessThanEqual =>
    refine ⟨_, congrArg (some ∘ Value.boolean) (ordering _), ?_⟩
    rw [BinaryOp.Relates, ← gt]
    cases o <;> decide
  case greaterThan =>
    refine ⟨_, congrArg (some ∘ Value.boolean) (ordering _), ?_⟩
    rw [BinaryOp.Relates, ← gt]
    cases o <;> decide
  case greaterThanEqual =>
    refine ⟨_, congrArg (some ∘ Value.boolean) (ordering _), ?_⟩
    rw [BinaryOp.Relates, ← lt]
    cases o <;> decide
  case equal => exact ⟨_, rfl, equal⟩
  case notEqual =>
    refine ⟨_, rfl, ?_⟩
    rw [BinaryOp.Relates, ne_eq, ← equal, Bool.not_eq_true', Bool.not_eq_true]
  all_goals rcases comparison with h | h <;> cases h

/-! ## The relations -/

/-- One of three statements holds and the other two do not. -/
def ExactlyOne (p q r : Prop) : Prop := p ∧ ¬ q ∧ ¬ r ∨ ¬ p ∧ q ∧ ¬ r ∨ ¬ p ∧ ¬ q ∧ r

theorem Value.trichotomy (together : ¬ v.ZerosApart w) :
    ExactlyOne (BinaryOp.lessThan.Relates v w) (BinaryOp.equal.Relates v w)
      (BinaryOp.greaterThan.Relates v w) := by
  unfold ExactlyOne BinaryOp.Relates
  unfold Value.ZerosApart at together
  unfold Value.Precedes
  rcases lt_trichotomy (v.numberBeside w) (w.numberBeside v) with less | same | greater
  · exact .inl ⟨.inl less, less.ne, by simp [less.not_gt, less.ne']⟩
  · refine .inr (.inl ?_)
    simp only [same, lt_irrefl, true_and, false_or] at together ⊢
    tauto
  · exact .inr (.inr ⟨by simp [greater.not_gt, greater.ne'], greater.ne', .inl greater⟩)

theorem Value.le_iff (together : ¬ v.ZerosApart w) :
    BinaryOp.lessThanEqual.Relates v w ↔
      BinaryOp.lessThan.Relates v w ∨ BinaryOp.equal.Relates v w := by
  have one := Value.trichotomy together
  unfold ExactlyOne BinaryOp.Relates at one
  unfold BinaryOp.Relates
  tauto

/-! ## Transitivity -/

/-- The number of a value as a FLOAT. -/
noncomputable def Value.widened (v : Value) : EReal := (v.widen (some .float)).number

/-- As a FLOAT the value does not come after the other one. -/
def Value.NotAfter (v w : Value) : Prop :=
  v.widened < w.widened ∨
    v.widened = w.widened ∧ (w = .float (-0.0) → v = .float (-0.0))

theorem Value.NotAfter.trans (h : v.NotAfter w) (h' : w.NotAfter u) : v.NotAfter u := by
  rcases h with less | ⟨same, first⟩
  · rcases h' with less' | ⟨same', _⟩
    · exact .inl (less.trans less')
    · exact .inl (same' ▸ less)
  · rcases h' with less' | ⟨same', second⟩
    · exact .inl (same ▸ less')
    · exact .inr ⟨same.trans same', first ∘ second⟩

theorem Value.widened_integer (n : Int64) :
    (integer n).widened = real (Integer.toFloat n) := Integer.number_toFloat n

theorem Value.not_precedes_integers (n k : Int64) :
    ¬ (integer k).Precedes (integer n) ↔ n.toInt ≤ k.toInt := by
  simp [Precedes]

/-- If one of two numbers is a FLOAT, both are compared as such. -/
theorem Value.not_precedes_iff (hv : v.IsNumber) (hw : w.IsNumber)
    (mixed : ∀ n k, v = .integer n → w ≠ .integer k) : ¬ w.Precedes v ↔ v.NotAfter w := by
  have beside : v.numberBeside w = v.widened ∧ w.numberBeside v = w.widened := by
    cases hv with
    | integer n =>
        cases hw with
        | integer k => exact absurd rfl (mixed n k rfl)
        | float _ => exact ⟨rfl, rfl⟩
    | float _ => cases hw <;> exact ⟨rfl, rfl⟩
  unfold Precedes NotAfter
  rw [beside.1, beside.2]
  rcases lt_trichotomy v.widened w.widened with less | same | greater
  · simp [less, less.not_gt, less.ne']
  · simp [same]
  · simp [greater, greater.not_gt, greater.ne']

/-- The order of numbers is kept when both become FLOATs. -/
theorem Value.notAfter_of_le (hv : v.IsNumber) (hw : w.IsNumber) (h : ¬ w.Precedes v) :
    v.NotAfter w := by
  by_cases integers : ∃ n k, v = .integer n ∧ w = .integer k
  · obtain ⟨n, k, rfl, rfl⟩ := integers
    have widened := Integer.real_toFloat_mono ((not_precedes_integers n k).mp h)
    unfold NotAfter
    rw [widened_integer, widened_integer, EReal.coe_lt_coe_iff, EReal.coe_eq_coe_iff]
    exact widened.lt_or_eq.imp_right fun same => ⟨same, fun impossible => nomatch impossible⟩
  · exact (not_precedes_iff hv hw fun n k left right => integers ⟨n, k, left, right⟩).mp h

/-- The order of three numbers is transitive, unless both a first and a last INTEGER become the
FLOAT that stands between them. -/
theorem Value.le_trans (hv : v.IsNumber) (hw : w.IsNumber) (hu : u.IsNumber)
    (first : BinaryOp.lessThanEqual.Relates v w) (second : BinaryOp.lessThanEqual.Relates w u) :
    BinaryOp.lessThanEqual.Relates v u ∨
      ∃ n k x, v = .integer n ∧ w = .float x ∧ u = .integer k ∧
        FloatMath.number (Integer.toFloat n) = FloatMath.number x ∧
        FloatMath.number (Integer.toFloat k) = FloatMath.number x := by
  have before := notAfter_of_le hv hw first
  have after := notAfter_of_le hw hu second
  -- Only two INTEGERs at the ends are compared otherwise than as FLOATs.
  by_cases integers : ∃ n k, v = .integer n ∧ u = .integer k
  · obtain ⟨n, k, rfl, rfl⟩ := integers
    rcases le_or_gt n.toInt k.toInt with le | gt
    · exact .inl ((not_precedes_integers n k).mpr le)
    · right
      cases hw with
      | integer i =>
          have le := ((not_precedes_integers n i).mp first).trans
            ((not_precedes_integers i k).mp second)
          exact absurd le (not_le.mpr gt)
      | @float x hx =>
          -- The FLOAT is between two FLOATs that come in the other order.
          have turned : (integer k).widened ≤ (integer n).widened := by
            rw [widened_integer, widened_integer, EReal.coe_le_coe_iff]
            exact Integer.real_toFloat_mono gt.le
          have low : (integer n).widened ≤ (float x).widened := before.elim le_of_lt (·.1.le)
          have high : (float x).widened ≤ (integer k).widened := after.elim le_of_lt (·.1.le)
          exact ⟨n, k, x, rfl, rfl, rfl, le_antisymm low (high.trans turned),
            le_antisymm (turned.trans low) high⟩
  · exact .inl ((not_precedes_iff hv hu fun n k left right => integers ⟨n, k, left, right⟩).mpr
      (before.trans after))

end Values

/-! ## Comparisons of expressions -/

/-- What a definite computer answers is what it holds. -/
theorem Computer.Definite.holds {m : Moment} {c : Computer} {v : Value} (definite : c.Definite)
    (h : c.value.Answers m (.ok v)) : c.Holds m v := by
  cases definite with
  | missing =>
      cases h.unique (answers_pure Value.missing)
      exact .missing
  | @of k s _ hs =>
      obtain ⟨gone, asked, h⟩ :=
        Definite.of_bind hs.isMissing (fun _ => .ite (blind_pure _) (hs.compute.map _)) h
      cases gone with
      | true =>
          cases h.unique (answers_pure Value.missing)
          exact .of (.absent asked)
      | false =>
          obtain ⟨x, value, rfl⟩ := Definite.of_map hs.compute h
          exact .of (.present asked value)

section Expressions

variable {ctx : TypingContext} {host : Host} {m : Moment} {l r s : Expr} {a b c : Value}
  {op : BinaryOp}

theorem binaryType_comparison (comparison : op.IsComparison) {t u : ValueType}
    (ht : t.isNumeric = true) (hu : u.isNumeric = true) :
    binaryType op t u = .ok (.required .boolean) := by
  have zoned : t.base ≠ some .zonedDateTime := by
    intro zoned
    cases t with
    | missing => cases zoned
    | of k o =>
        cases zoned
        cases ht
  have orderable : t.isMutuallyOrderable u = true := by
    rw [ValueType.isMutuallyOrderable, ht, hu]
    rfl
  have equatable : t.isEquatable u = true := by
    simp [ValueType.isEquatable, ht, hu]
  unfold binaryType
  rcases comparison with h | h <;> cases op <;> cases h <;>
    simp [BinaryOp.isArithmetic, BinaryOp.isOrdering, BinaryOp.isEquality, zoned, orderable,
      equatable]

/-- A comparison of numbers can be built. -/
theorem Operator.exists_comparison (comparison : op.IsComparison) {c d : Computer}
    (hc : c.Holds m a) (hd : d.Holds m b) (ha : a.IsNumber) (hb : b.IsNumber) :
    ∃ e, Operator.binary op (some .boolean) c d = .ok e := by
  have compared : ∃ cmp, Operator.comparator c d = .ok cmp := by
    cases ha <;> cases hb <;> obtain ⟨_, rfl, _⟩ := hc.of_present <;>
      obtain ⟨_, rfl, _⟩ := hd.of_present <;> exact ⟨_, rfl⟩
  obtain ⟨cmp, hcmp⟩ := compared
  rcases comparison with h | h <;> cases op <;> cases h
  case inr.equal => exact ⟨_, rfl⟩
  case inr.notEqual => exact ⟨_, rfl⟩
  all_goals
    unfold Operator.binary Operator.ordering
    rw [hcmp]
    exact ⟨_, rfl⟩

/-- The expression has the type of a number and, at the moment, a number as its value. -/
structure Expr.Numeric (ctx : TypingContext) (host : Host) (m : Moment) (e : Expr) (a : Value) :
    Prop where
  untyped : e.Untyped
  typed : ∃ t, (e.infer ctx).2 = .ok t ∧ t.isNumeric = true
  evaluates : e.Evaluates ctx host m a
  number : a.IsNumber

/-- The comparison of the expressions is true. -/
def Expr.Shows (ctx : TypingContext) (host : Host) (m : Moment) (op : BinaryOp) (l r : Expr) :
    Prop :=
  ∀ span, (Expr.binary { span } l op r).Evaluates ctx host m (.boolean true)

section Served

variable (functions : ctx.functions = library) (served : host.Definite)
include functions served

/-- A comparison of two numbers has one value: whether the relation holds. -/
theorem Expr.evaluates_comparison (comparison : op.IsComparison) (hl : l.Numeric ctx host m a)
    (hr : r.Numeric ctx host m b) (span : Span) (v : Value) :
    (Expr.binary { span } l op r).Evaluates ctx host m v ↔
      ∃ t, v = .boolean t ∧ (t = true ↔ op.Relates a b) := by
  obtain ⟨t, ht, numeric⟩ := hl.typed
  obtain ⟨u, hu, numeric'⟩ := hr.typed
  obtain ⟨_, c, _, left, hc⟩ := hl.evaluates.answers functions served hl.untyped
  obtain ⟨_, d, _, right, hd⟩ := hr.evaluates.answers functions served hr.untyped
  have hc := (hl.untyped.definite_computer functions served left).holds hc
  have hd := (hr.untyped.definite_computer functions served right).holds hd
  have typed := infer_binary span ht hu (binaryType_comparison comparison numeric numeric')
  obtain ⟨e, built⟩ := Operator.exists_comparison comparison hc hd hl.number hr.number
  have computer : (Expr.binary { span } l op r).computer ctx host = .ok e := by
    rw [Expr.computer, typed, Expr.build]
    change (do
      let x ← l.computer ctx host
      let y ← r.computer ctx host
      Operator.binary op (some .boolean) x y) = _
    rw [left, right]
    exact built
  obtain ⟨truth, means, relates⟩ :=
    Meaning.binary_comparison comparison hl.number hr.number (some .boolean)
  -- What is built holds what the comparison means, and there is no other computer.
  have answer := (Operator.binary_holds hc hd built means).value
  constructor
  · rintro ⟨_, e', log, _, computer', run⟩
    cases computer.symm.trans computer'
    rw [answer log] at run
    cases run
    exact ⟨truth, rfl, relates⟩
  · rintro ⟨truth', rfl, relates'⟩
    have same : truth' = truth := Bool.eq_iff_iff.mpr (relates'.trans relates.symm)
    exact ⟨_, e, {}, congrArg Prod.snd typed, computer, same ▸ answer {}⟩

theorem Expr.shows_iff (comparison : op.IsComparison) (hl : l.Numeric ctx host m a)
    (hr : r.Numeric ctx host m b) : Shows ctx host m op l r ↔ op.Relates a b := by
  have evaluates := evaluates_comparison functions served comparison hl hr
  constructor
  · intro shown
    obtain ⟨t, same, relates⟩ := (evaluates {} _).mp (shown {})
    cases same
    exact relates.mp rfl
  · exact fun relates span => (evaluates span _).mpr ⟨true, rfl, iff_of_true rfl relates⟩

end Served

/-- Comparisons of numbers by their values, an INTEGER beside a FLOAT as the nearest FLOAT: each
has one value, which is whether its relation holds.  But for zeros of different sign, one of `<`,
`==` and `>` is true and `<=` means `<` or `==`.  And `<=` is transitive, unless two INTEGERs become
the FLOAT between them. -/
theorem Expr.numbers_compared (functions : ctx.functions = library) (served : host.Definite)
    (hl : l.Numeric ctx host m a) (hr : r.Numeric ctx host m b) (hs : s.Numeric ctx host m c) :
    (∀ op : BinaryOp, op.IsComparison → ∀ span v,
      (Expr.binary { span } l op r).Evaluates ctx host m v ↔
        ∃ t, v = .boolean t ∧ (t = true ↔ op.Relates a b)) ∧
    (¬ a.ZerosApart b →
      ExactlyOne (Shows ctx host m .lessThan l r) (Shows ctx host m .equal l r)
          (Shows ctx host m .greaterThan l r) ∧
        (Shows ctx host m .lessThanEqual l r ↔
          Shows ctx host m .lessThan l r ∨ Shows ctx host m .equal l r)) ∧
    (Shows ctx host m .lessThanEqual l r → Shows ctx host m .lessThanEqual r s →
      Shows ctx host m .lessThanEqual l s ∨
        ∃ n k x, a = .integer n ∧ b = .float x ∧ c = .integer k ∧
          FloatMath.number (Integer.toFloat n) = FloatMath.number x ∧
          FloatMath.number (Integer.toFloat k) = FloatMath.number x) ∧
    ∀ n : Int64,
      (∀ y : Float, |(n.toInt : ℝ) - real (Integer.toFloat n)| ≤ |(n.toInt : ℝ) - real y|) ∧
        (n.toInt.natAbs ≤ 2 ^ 53 → real (Integer.toFloat n) = n.toInt) := by
  have shows {op : BinaryOp} (comparison : op.IsComparison) {x y : Expr} {v w : Value}
      (hx : x.Numeric ctx host m v) (hy : y.Numeric ctx host m w) :=
    shows_iff functions served comparison hx hy
  refine ⟨fun op comparison => evaluates_comparison functions served comparison hl hr,
    fun together => ⟨?_, ?_⟩, fun first second => ?_,
    fun n => ⟨Integer.real_toFloat_closest n, Integer.real_toFloat_exact⟩⟩
  · rw [shows (.inl rfl) hl hr, shows (.inr rfl) hl hr, shows (.inl rfl) hl hr]
    exact Value.trichotomy together
  · rw [shows (.inl rfl) hl hr, shows (.inl rfl) hl hr, shows (.inr rfl) hl hr]
    exact Value.le_iff together
  · rw [shows (.inl rfl) hl hr] at first
    rw [shows (.inl rfl) hr hs] at second
    rw [shows (.inl rfl) hl hs]
    exact Value.le_trans hl.number hr.number hs.number first second

end Expressions

namespace Sample

theorem numeric_integer (n : Int64) :
    (Expr.constant {} (.integer n)).Numeric rows rowsHost firstRow (.integer n) where
  untyped := rfl
  typed := ⟨_, rfl, rfl⟩
  evaluates := ⟨_, _, {}, rfl, rfl, rfl⟩
  number := .integer n

theorem numeric_float {x : Float} (number : x.isNaN = false) :
    (Expr.constant {} (.float x)).Numeric rows rowsHost firstRow (.float x) where
  untyped := rfl
  typed := ⟨_, rfl, rfl⟩
  evaluates := ⟨_, _, {}, rfl, rfl, rfl⟩
  number := .float number

/-- The negative zero that is written `-0.0`. -/
theorem numeric_negativeZero :
    (Expr.unary {} .minus (.constant {} (.float 0.0))).Numeric rows rowsHost firstRow
      (.float (-0.0)) where
  untyped := ⟨rfl, rfl⟩
  typed := ⟨_, rfl, rfl⟩
  evaluates := ⟨_, _, {}, rfl, rfl, rfl⟩
  number := .float (by decide +kernel)

theorem number_of_toFloat {n : Int64} {x : Float} (bits : (Integer.toFloat n).toBits = x.toBits)
    (small : n.toInt.natAbs ≤ 2 ^ 53) : FloatMath.number x = ((n.toInt : ℝ) : EReal) := by
  rw [← eq_of_toBits_eq bits, Integer.number_toFloat, Integer.real_toFloat_exact small]

theorem ne_negativeZero {x : Float} (bits : x.toBits ≠ (-0.0 : Float).toBits) : x ≠ -0.0 := by
  rintro rfl
  exact bits rfl

theorem number_widened {n : Int64} (small : n.toInt.natAbs ≤ 2 ^ 53) :
    FloatMath.number (Integer.toFloat n) = ((n.toInt : ℝ) : EReal) :=
  number_of_toFloat rfl small

/-- The FLOAT 2.0 between the INTEGERs 1 and 3. -/
theorem two_compared :
    ExactlyOne
        (Expr.Shows rows rowsHost firstRow .lessThan (.constant {} (.integer 1))
          (.constant {} (.float 2.0)))
        (Expr.Shows rows rowsHost firstRow .equal (.constant {} (.integer 1))
          (.constant {} (.float 2.0)))
        (Expr.Shows rows rowsHost firstRow .greaterThan (.constant {} (.integer 1))
          (.constant {} (.float 2.0))) ∧
      Expr.Shows rows rowsHost firstRow .lessThanEqual (.constant {} (.integer 1))
        (.constant {} (.integer 3)) := by
  have functions : rows.functions = library := rfl
  have served : rowsHost.Definite := Table.definite_host (.ofSize 2) .empty
  have one := numeric_integer 1
  have two := numeric_float (x := 2.0) (by decide +kernel)
  have three := numeric_integer 3
  have float : FloatMath.number 2.0 = ((2 : ℝ) : EReal) :=
    number_of_toFloat (n := 2) (by decide +kernel) (by decide)
  have widenedOne : FloatMath.number (Integer.toFloat 1) = ((1 : ℝ) : EReal) := by
    simpa using number_widened (n := 1) (by decide)
  have widenedThree : FloatMath.number (Integer.toFloat 3) = ((3 : ℝ) : EReal) :=
    number_widened (n := 3) (by decide)
  obtain ⟨_, ordered, transitive, _⟩ := Expr.numbers_compared functions served one two three
  have together : ¬ (Value.integer 1).ZerosApart (.float 2.0) := by
    have ne : Value.float 2.0 ≠ .float (-0.0) := by
      simpa using ne_negativeZero (by decide +kernel)
    intro apart
    cases apart.2.mpr ne
  have first : BinaryOp.lessThanEqual.Relates (.integer 1) (.float 2.0) := by
    rintro (less | ⟨same, _⟩)
    · rw [Value.numberBeside_float, Value.numberBeside_integer_float, float, widenedOne,
        EReal.coe_lt_coe_iff] at less
      norm_num at less
    · rw [Value.numberBeside_float, Value.numberBeside_integer_float, float, widenedOne,
        EReal.coe_eq_coe_iff] at same
      norm_num at same
  have second : BinaryOp.lessThanEqual.Relates (.float 2.0) (.integer 3) := by
    rintro (less | ⟨_, zero, _⟩)
    · rw [Value.numberBeside_float, Value.numberBeside_integer_float, float, widenedThree,
        EReal.coe_lt_coe_iff] at less
      norm_num at less
    · cases zero
  refine ⟨(ordered together).1, ?_⟩
  rcases transitive ((Expr.shows_iff functions served (.inl rfl) one two).mpr first)
    ((Expr.shows_iff functions served (.inl rfl) two three).mpr second) with shown | rounded
  · exact shown
  · obtain ⟨n, k, x, left, middle, _, same, _⟩ := rounded
    cases left
    cases middle
    rw [widenedOne, float, EReal.coe_eq_coe_iff] at same
    norm_num at same

/-- The total order tells zeros apart, and integers of more than 53 bits are rounded when they are
compared with a FLOAT. -/
theorem comparisons_rounded :
    (Expr.Shows rows rowsHost firstRow .lessThan (.unary {} .minus (.constant {} (.float 0.0)))
        (.constant {} (.float 0.0)) ∧
      (Value.float (-0.0)).number = (Value.float 0.0).number) ∧
    (Expr.Shows rows rowsHost firstRow .equal (.constant {} (.integer 9007199254740993))
        (.constant {} (.float 9007199254740992.0)) ∧
      (Value.integer 9007199254740993).number ≠ (Value.float 9007199254740992.0).number) ∧
    Expr.Shows rows rowsHost firstRow .lessThanEqual (.constant {} (.integer 9007199254740993))
        (.constant {} (.float 9007199254740992.0)) ∧
      Expr.Shows rows rowsHost firstRow .lessThanEqual (.constant {} (.float 9007199254740992.0))
        (.constant {} (.integer 9007199254740992)) ∧
      ¬ Expr.Shows rows rowsHost firstRow .lessThanEqual (.constant {} (.integer 9007199254740993))
        (.constant {} (.integer 9007199254740992)) := by
  have functions : rows.functions = library := rfl
  have served : rowsHost.Definite := Table.definite_host (.ofSize 2) .empty
  have shows {op : BinaryOp} (comparison : op.IsComparison) {l r : Expr} {a b : Value}
      (hl : l.Numeric rows rowsHost firstRow a) (hr : r.Numeric rows rowsHost firstRow b) :=
    Expr.shows_iff functions served comparison hl hr
  have zero := numeric_float (x := 0.0) (by decide +kernel)
  have large := numeric_integer 9007199254740993
  have float := numeric_float (x := 9007199254740992.0) (by decide +kernel)
  have even := numeric_integer 9007199254740992
  have zeros : FloatMath.number (-0.0) = FloatMath.number 0.0 :=
    number_eq_of_place (by decide +kernel) (by decide +kernel) (by decide +kernel)
  have power : FloatMath.number 9007199254740992.0 = ((9007199254740992 : ℝ) : EReal) :=
    number_of_toFloat (n := 9007199254740992) (by decide +kernel) (by decide)
  have rounded : Integer.toFloat 9007199254740993 = 9007199254740992.0 :=
    eq_of_toBits_eq (by decide +kernel)
  have kept : Integer.toFloat 9007199254740992 = 9007199254740992.0 :=
    eq_of_toBits_eq (by decide +kernel)
  refine ⟨⟨?_, zeros⟩, ⟨?_, ?_⟩, ?_, ?_, ?_⟩
  · rw [shows (.inl rfl) numeric_negativeZero zero]
    have ne : Value.float 0.0 ≠ .float (-0.0) := by
      simpa using ne_negativeZero (by decide +kernel)
    exact .inr ⟨zeros, rfl, ne⟩
  · rw [shows (.inr rfl) large float]
    exact congrArg FloatMath.number rounded
  · intro same
    change (((9007199254740993 : ℤ) : ℝ) : EReal) = FloatMath.number 9007199254740992.0 at same
    rw [power, EReal.coe_eq_coe_iff] at same
    norm_num at same
  · rw [shows (.inl rfl) large float]
    have ne : (9007199254740992.0 : Float) ≠ -0.0 := ne_negativeZero (by decide +kernel)
    simp [BinaryOp.Relates, Value.Precedes, rounded, ne]
  · rw [shows (.inl rfl) float even]
    simp [BinaryOp.Relates, Value.Precedes, kept]
  · rw [shows (.inl rfl) large even]
    exact fun le => absurd ((Value.not_precedes_integers _ _).mp le) (by decide)

end Sample

end Rowwise
