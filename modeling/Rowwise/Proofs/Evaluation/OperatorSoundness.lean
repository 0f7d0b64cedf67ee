import Rowwise.Evaluation.Operators
import Rowwise.Typing.Operators
import Rowwise.Proofs.Evaluation.Computers
import Rowwise.Proofs.Except

/-!
# The operators keep to their types

The rules that type an operator and the functions that build its computer are two case analyses
over the same operands.  For each class of operators, if the rule accepts operands of types `a`
and `b`, then from computers that fit `a` and `b` the operator builds one that fits the type that
the rule gives.
-/

namespace Rowwise

open Eval

namespace Operator

variable {R : Regime} {m : Moment} {l r c : Computer} {a b t u : ValueType} {o o₁ o₂ : Bool}

/-! ## What operators are built from -/

/-- The ways in which a binary operator gets to a computer whose result has a certain base. -/
inductive Builds (op : BinaryOp) (l r : Computer) : Base → Computer → Prop where
  | fallback {output : Base} {x y c : Computer} (operator : op = .missingFallback)
      (left : l.coerce output = .ok x) (right : r.coerce output = .ok y)
      (zipped : Computer.zip Source.fallback x y = .ok c) : Builds op l r output c
  | ordering {s : Source Bool} (operator : op.isOrdering) (computed : ordering op l r = .ok s) :
      Builds op l r (some .boolean) (.boolean s)
  | equality (operator : op.isEquality) :
      Builds op l r (some .boolean) (.boolean (equality op l r))
  | logical {x y : Source Bool} (operator : op.isLogical) (left : l.as .boolean = .ok x)
      (right : r.as .boolean = .ok y) :
      Builds op l r (some .boolean) (.boolean (logical op x y))
  | integers {x y s : Source Int64} (left : l.as .integer = .ok x) (right : r.as .integer = .ok y)
      (computed : integers op x y = .ok s) : Builds op l r (some .integer) (.integer s)
  | floats {x y s : Source Float} (left : l.asFloat = .ok x) (right : r.asFloat = .ok y)
      (computed : floats op x y = .ok s) : Builds op l r (some .float) (.float s)
  | texts (operator : op = .plus) : Builds op l r (some .string) (.string (joinTexts l r))
  | temporal {output : Base} {c : Computer} (integer : output ≠ some .integer)
      (float : output ≠ some .float) (string : ¬(output = some .string ∧ op = .plus))
      (operator : op.isArithmetic) (computed : temporal op output l r = .ok c) :
      Builds op l r output c

variable {op : BinaryOp} {output : Base}

theorem builds_of_binary (h : binary op output l r = .ok c) :
    Builds op l r output c := by
  unfold binary at h
  split at h
  · next operator =>
      obtain ⟨x, left, h⟩ := Except.bind_ok h
      obtain ⟨y, right, zipped⟩ := Except.bind_ok h
      exact .fallback operator left right zipped
  split at h
  · next ordered =>
      obtain ⟨s, computed, h⟩ := Except.bind_ok h
      cases h
      obtain ⟨rfl, operator⟩ := ordered
      exact .ordering operator computed
  split at h
  · next compared =>
      cases h
      obtain ⟨rfl, operator⟩ := compared
      exact .equality operator
  split at h
  · next decided =>
      obtain ⟨x, left, h⟩ := Except.bind_ok h
      obtain ⟨y, right, h⟩ := Except.bind_ok h
      cases h
      obtain ⟨rfl, operator⟩ := decided
      exact .logical operator left right
  split at h
  · next integer =>
      obtain ⟨x, left, h⟩ := Except.bind_ok h
      obtain ⟨y, right, h⟩ := Except.bind_ok h
      obtain ⟨s, computed, h⟩ := Except.bind_ok h
      cases h
      subst integer
      exact .integers left right computed
  split at h
  · next float =>
      obtain ⟨x, left, h⟩ := Except.bind_ok h
      obtain ⟨y, right, h⟩ := Except.bind_ok h
      obtain ⟨s, computed, h⟩ := Except.bind_ok h
      cases h
      subst float
      exact .floats left right computed
  split at h
  · next joined =>
      cases h
      obtain ⟨rfl, operator⟩ := joined
      exact .texts operator
  split at h
  · next integer float string operator => exact .temporal integer float string operator h
  · cases h

theorem isArithmetic_of_integers {x y s : Source Int64} (h : integers op x y = .ok s) :
    op.isArithmetic := by
  cases op <;> first | rfl | cases h

theorem isArithmetic_of_floats {x y s : Source Float} (h : floats op x y = .ok s) :
    op.isArithmetic := by
  cases op <;> first | rfl | cases h

theorem Builds.eq (h : Builds op l r output c) : binary op output l r = .ok c := by
  -- The classes of operators exclude each other, so that no earlier branch is taken.
  have fallback (other : op.isOrdering ∨ op.isEquality ∨ op.isLogical ∨ op.isArithmetic) :
      op ≠ .missingFallback := by
    rintro rfl
    revert other
    decide
  have unordered (other : op.isEquality ∨ op.isLogical) : op.isOrdering = false := by
    cases op <;> first | rfl | (revert other; decide)
  have unequal (other : op.isLogical) : op.isEquality = false := by
    cases op <;> first | rfl | cases other
  cases h with
  | fallback operator left right zipped =>
      rw [binary, if_pos operator, left, right]
      exact zipped
  | ordering operator computed =>
      simp [binary, fallback (.inl operator), operator, computed, pure, Except.pure, bind,
        Except.bind]
  | equality operator =>
      simp [binary, fallback (.inr (.inl operator)), unordered (.inl operator), operator]
  | logical operator left right =>
      simp [binary, fallback (.inr (.inr (.inl operator))), unordered (.inr operator),
        unequal operator, operator, left, right, pure, Except.pure, bind, Except.bind]
  | integers left right computed =>
      have operator := isArithmetic_of_integers computed
      simp [binary, fallback (.inr (.inr (.inr operator))), left, right, computed, pure,
        Except.pure, bind, Except.bind]
  | floats left right computed =>
      have operator := isArithmetic_of_floats computed
      simp [binary, fallback (.inr (.inr (.inr operator))), left, right, computed, pure,
        Except.pure, bind, Except.bind]
  | texts operator =>
      subst operator
      rfl
  | temporal integer float string operator computed =>
      have others : op.isOrdering = false ∧ op.isEquality = false ∧ op.isLogical = false := by
        cases op <;> first | exact ⟨rfl, rfl, rfl⟩ | cases operator
      simp [binary, fallback (.inr (.inr (.inr operator))), others, integer, float, string, operator,
        computed]

/-! ## Unary operators -/

theorem unary_sound {op : UnaryOp} (ht : unaryType op t = .ok u) (hc : c.Fits R t) :
    ∃ d, unary op c = .ok d ∧ d.Fits R u := by
  cases hc with
  | missing => cases op <;> cases ht
  | @of k s o source =>
      cases op with
      | not =>
          cases k <;> cases ht
          exact ⟨_, rfl, .of (Source.map_fits source _)⟩
      | minus =>
          cases k <;> cases ht
          · exact ⟨_, rfl, .of (Source.map_fits source _)⟩
          · exact ⟨_, rfl, .of (Source.map_fits source _)⟩
          · exact ⟨_, rfl, .of (Source.tryMap_fits source fun _ _ => regular_inRange _ _)⟩
          · exact ⟨_, rfl, .of (Source.map_fits source _)⟩

/-! ## Numbers -/

theorem divideIntegers_regular (x y : Int64) : (divideIntegers x y).Regular R m :=
  .ite (fun _ => (regular_warn _).andThen fun _ => regular_pure _) fun _ => regular_pure _

theorem remainderOfIntegers_regular (x y : Int64) : (remainderOfIntegers x y).Regular R m :=
  .ite (fun _ => (regular_warn _).andThen fun _ => regular_pure _) fun _ => regular_pure _

theorem warnZeroDivisor_regular (what : String) (y z : Float) :
    (warnZeroDivisor what y z).Regular R m :=
  .ite (fun _ => (regular_warn _).andThen fun _ => regular_pure _) fun _ => regular_pure _

theorem integers_sound {op : BinaryOp} (hop : op.isArithmetic) (hdiv : op ≠ .divide)
    {x y : Source Int64} (hx : x.Fits R o₁) (hy : y.Fits R o₂) :
    ∃ s, integers op x y = .ok s ∧ s.Fits R (o₁ || o₂) := by
  cases op <;> simp [BinaryOp.isArithmetic] at hop hdiv
  case floorDivide =>
    exact ⟨_, rfl, Source.combine_fits hx hy fun _ => divideIntegers_regular⟩
  case remainder =>
    exact ⟨_, rfl, Source.combine_fits hx hy fun _ => remainderOfIntegers_regular⟩
  all_goals exact ⟨_, rfl, Source.combine_fits hx hy fun _ _ _ => regular_pure _⟩

theorem floats_sound {op : BinaryOp} (hop : op.isArithmetic) (hdiv : op ≠ .floorDivide)
    {x y : Source Float} (hx : x.Fits R o₁) (hy : y.Fits R o₂) :
    ∃ s, floats op x y = .ok s ∧ s.Fits R (o₁ || o₂) := by
  cases op <;> simp [BinaryOp.isArithmetic] at hop hdiv
  case divide =>
    exact ⟨_, rfl, Source.combine_fits hx hy fun _ _ _ => warnZeroDivisor_regular _ _ _⟩
  case remainder =>
    exact ⟨_, rfl, Source.combine_fits hx hy fun _ _ _ => warnZeroDivisor_regular _ _ _⟩
  all_goals exact ⟨_, rfl, Source.combine_fits hx hy fun _ _ _ => regular_pure _⟩

/-- An operator on integers whose result is an INTEGER. -/
theorem binary_integer {op : BinaryOp} (hop : op.isArithmetic) (hdiv : op ≠ .divide)
    (hl : l.Fits R a) (hr : r.Fits R b) (ha : a.base = some .integer)
    (hb : b.base = some .integer) :
    ∃ d, binary op (some .integer) l r = .ok d ∧
      d.Fits R (.of .integer (a.isOptional || b.isOptional)) := by
  obtain ⟨x, hx, fx⟩ := hl.as_ok (.inl ha)
  obtain ⟨y, hy, fy⟩ := hr.as_ok (.inl hb)
  obtain ⟨s, hs, fs⟩ := integers_sound hop hdiv fx fy
  exact ⟨.integer s, (Builds.integers hx hy hs).eq, .of fs⟩

/-- An operator on numbers whose result is a FLOAT. -/
theorem binary_float {op : BinaryOp} (hop : op.isArithmetic) (hdiv : op ≠ .floorDivide)
    (hl : l.Fits R a) (hr : r.Fits R b) (ha : a.isNumeric) (hb : b.isNumeric) :
    ∃ d, binary op (some .float) l r = .ok d ∧
      d.Fits R (.of .float (a.isOptional || b.isOptional)) := by
  obtain ⟨x, hx, fx⟩ := hl.asFloat_ok (.inl ha)
  obtain ⟨y, hy, fy⟩ := hr.asFloat_ok (.inl hb)
  obtain ⟨s, hs, fs⟩ := floats_sound hop hdiv fx fy
  exact ⟨.float s, (Builds.floats hx hy hs).eq, .of fs⟩

theorem arithmetic_sound {op : BinaryOp} (hop : op.isArithmetic) (ha : a.isNumeric)
    (hb : b.isNumeric) (ht : arithmeticType op a b (a.isOptional || b.isOptional) = .ok t)
    (hl : l.Fits R a) (hr : r.Fits R b) :
    ∃ d, binary op t.base l r = .ok d ∧ d.Fits R t := by
  by_cases hints : a.base = some .integer ∧ b.base = some .integer
  · obtain ⟨hai, hbi⟩ := hints
    by_cases hdiv : op = .divide
    · subst hdiv
      cases ht
      exact binary_float hop (by simp) hl hr ha hb
    · have : t = .of .integer (a.isOptional || b.isOptional) := by
        cases op <;> simp_all [arithmeticType]
      subst this
      exact binary_integer hop hdiv hl hr hai hbi
  · have hk : (a.base == some .integer && b.base == some .integer) = false := by
      simpa using hints
    simp only [arithmeticType, hk] at ht
    have hfloor : op ≠ .floorDivide := by
      rintro rfl
      cases ht
    have : t = .of .float (a.isOptional || b.isOptional) := by
      cases op <;> simp_all
    subst this
    exact binary_float hop hfloor hl hr ha hb

/-! ## Comparisons -/

theorem isNumeric_of_base_float (h : a.base = some .float) : a.isNumeric := by
  cases a <;> simp_all [ValueType.base, ValueType.isNumeric, ValueType.kindSatisfies,
    Kind.isNumeric]

theorem numeric_not_float (h : a.isNumeric) (hf : a.base ≠ some .float) :
    a.base = some .integer := by
  cases a with
  | missing => cases h
  | of k o => cases k <;> simp_all [ValueType.base, ValueType.isNumeric, ValueType.kindSatisfies,
      Kind.isNumeric]

/-- The kinds that have an order are those that are compared. -/
theorem orderOf?_isSome {k : Kind} (h : k.isOrderable) : ∃ order, orderOf? k = some order := by
  cases k <;> first | exact ⟨_, rfl⟩ | cases h

/-- Ordered operands have a comparison, which is regular where both of them are there. -/
theorem comparator_sound (h : a.isMutuallyOrderable b) (hl : l.Fits R a) (hr : r.Fits R b) :
    ∃ cmp, comparator l r = .ok cmp ∧ ∀ m, R.rows m → l.isMissing.Answers m (.ok false) →
      r.isMissing.Answers m (.ok false) → cmp.Regular R m := by
  simp only [ValueType.isMutuallyOrderable, Bool.or_eq_true, Bool.and_eq_true, beq_iff_eq] at h
  -- With a float on one side both sides are read as floats; without, they are of one kind.
  by_cases hf : l.base = some .float ∨ r.base = some .float
  · have numeric : a.isNumeric ∧ b.isNumeric := by
      rw [hl.base_eq, hr.base_eq] at hf
      rcases h with h | ⟨hab, _⟩
      · exact h
      · rw [hab, or_self] at hf
        exact ⟨isNumeric_of_base_float (hab.trans hf), isNumeric_of_base_float hf⟩
    obtain ⟨x, hx, fx⟩ := hl.asFloat_ok (.inl numeric.1)
    obtain ⟨y, hy, fy⟩ := hr.asFloat_ok (.inl numeric.2)
    refine ⟨_, by simp only [comparator, if_pos hf, hx, hy]; rfl, fun m hm there there' => ?_⟩
    rw [← Computer.isMissing_of_asFloat hx] at there
    rw [← Computer.isMissing_of_asFloat hy] at there'
    refine ((fx m hm).compute_regular there).andThen fun _ => ?_
    exact ((fy m hm).compute_regular there').andThen fun _ => regular_pure _
  · obtain ⟨hlf, hrf⟩ := not_or.mp hf
    rw [hl.base_eq] at hlf
    rw [hr.base_eq] at hrf
    have same : a.base = b.base := by
      rcases h with ⟨ha, hb⟩ | ⟨hab, _⟩
      · rw [numeric_not_float ha hlf, numeric_not_float hb hrf]
      · exact hab
    have orderable : a.isOrderable := by
      rcases h with ⟨ha, _⟩ | ⟨_, ho⟩
      · cases a with
        | missing => cases ha
        | of k o => cases k <;> first | rfl | cases ha
      · exact ho
    cases hl with
    | missing => cases orderable
    | @of k s _ fs =>
        cases hr with
        | missing => cases same
        | @of l s' _ fs' =>
            cases same
            obtain ⟨order, horder⟩ := orderOf?_isSome orderable
            refine ⟨_, by simp only [comparator, if_neg hf, horder, dif_pos]; rfl, ?_⟩
            intro m hm there there'
            refine ((fs m hm).compute_regular there).andThen fun _ => ?_
            exact ((fs' m hm).compute_regular there').andThen fun _ => regular_pure _

/-- The comparison is made only where both operands are there. -/
theorem ordering_sound (op : BinaryOp) (h : a.isMutuallyOrderable b) (hl : l.Fits R a)
    (hr : r.Fits R b) : ∃ s, ordering op l r = .ok s ∧ s.Fits R false := by
  obtain ⟨cmp, hcmp, regular⟩ := comparator_sound h hl hr
  refine ⟨_, by rw [ordering, hcmp]; rfl, Source.present_fits fun m hm => ?_⟩
  refine (hl.isMissing_regular hm).bind fun lm hlm => ?_
  refine (hr.isMissing_regular hm).bind fun rm hrm => ?_
  cases lm with
  | true => exact regular_pure _
  | false =>
      cases rm with
      | true => exact regular_pure _
      | false => exact (regular m hm hlm hrm).andThen fun _ => regular_pure _

theorem equality_fits (op : BinaryOp) (hl : l.Fits R a) (hr : r.Fits R b) :
    (equality op l r).Fits R false :=
  Source.present_fits fun _ hm => (hl.value_regular hm).andThen fun _ =>
    (hr.value_regular hm).andThen fun _ => regular_pure _

/-! ## Logic -/

/-- Kleene's logic leaves a truth value open only where an operand may be missing. -/
theorem decide_sound (op : BinaryOp) {x y : Source Bool} (hx : x.FitsAt R o₁ m)
    (hy : y.FitsAt R o₂ m) :
    (∃ e, R.permits e ∧ (decide op x y).Answers m (.error e)) ∨
      ∃ v, (decide op x y).Answers m (.ok v) ∧ (v = none → (o₁ || o₂) = true) := by
  obtain ⟨v, hv⟩ | ⟨e, he, hv⟩ := hx.value?_regular
  · -- The left operand decides alone, or else the right one, or neither does.
    by_cases decided : v = some (op == .or)
    · refine .inr ⟨v, hv.bind ?_, by simp [decided]⟩
      rw [if_pos decided]
      exact answers_pure v
    · obtain ⟨w, hw⟩ | ⟨e, he, hw⟩ := hy.value?_regular
      · by_cases decided' : w = some (op == .or)
        · refine .inr ⟨w, hv.bind ?_, by simp [decided']⟩
          rw [if_neg decided]
          refine hw.bind ?_
          rw [if_pos decided']
          exact answers_pure w
        · refine .inr ⟨if v.isSome && w.isSome then some !(op == .or) else none, hv.bind ?_, ?_⟩
          · rw [if_neg decided]
            refine hw.bind ?_
            rw [if_neg decided']
            exact answers_pure _
          · intro hnone
            rcases hx.isSome_of_value? hv with hs | ho
            · rcases hy.isSome_of_value? hw with hs' | ho
              · simp [hs, hs'] at hnone
              · simp [ho]
            · simp [ho]
      · refine .inl ⟨e, he, hv.bind ?_⟩
        rw [if_neg decided]
        exact hw.bind_error _
  · exact .inl ⟨e, he, hv.bind_error _⟩

theorem logical_fits (op : BinaryOp) {x y : Source Bool} (hx : x.Fits R o₁) (hy : y.Fits R o₂) :
    (logical op x y).Fits R (o₁ || o₂) := by
  intro m hm
  obtain ⟨e, he, hd⟩ | ⟨v, hd, open_⟩ := decide_sound op (hx m hm) (hy m hm)
  · exact .failing he (hd.bind_error _) fun _ _ => .inr ⟨e, he, hd.bind_error _⟩
  · cases v with
    | none => exact .absent (open_ rfl) (hd.bind (answers_pure true))
    | some b => exact .present (hd.bind (answers_pure false)) (.inl ⟨_, hd.bind (answers_pure _)⟩)

/-! ## Fallbacks and strings -/

/-- The result of `??` may be MISSING only if both sides may. -/
theorem fallback_sound (ht : fallbackType a b = .ok t) (hl : l.Fits R a) (hr : r.Fits R b) :
    ∃ d, binary .missingFallback t.base l r = .ok d ∧ d.Fits R t := by
  -- Both sides can be given as values of the type that they join to.
  obtain ⟨ca, cb, ho⟩ : Computer.coercible a t.base ∧ Computer.coercible b t.base ∧
      t = .ofBase t.base (a.isOptional && b.isOptional) := by
    cases a with
    | missing =>
        cases b with
        | missing => cases ht
        | of k o =>
            cases ht
            exact ⟨.inr (.inl rfl), .inl rfl, rfl⟩
    | of k o =>
        cases b with
        | missing =>
            cases ht
            exact ⟨.inl rfl, .inr (.inl rfl), by simp [ValueType.ofBase, ValueType.base,
              ValueType.isOptional]⟩
        | of k' o' =>
            simp only [fallbackType] at ht
            split at ht
            · next j hj =>
                cases ht
                rw [ValueType.base_withOptional]
                have := Computer.coercible_of_join hj
                exact ⟨this.1, this.2, rfl⟩
            · cases ht
  obtain ⟨x, hx, fx⟩ := hl.coerce_ok ca
  obtain ⟨y, hy, fy⟩ := hr.coerce_ok cb
  obtain ⟨d, hd, fd⟩ := Computer.zip_ok (f := Source.fallback) fx fy Source.fallback_fits
  exact ⟨d, (Builds.fallback rfl hx hy hd).eq, ho ▸ fd⟩

theorem joinTexts_fits (hl : l.Fits R a) (hr : r.Fits R b) : (joinTexts l r).Fits R false := by
  have left : l.textSource.Fits R false := hl.textSource_fits
  have right : r.textSource.Fits R false := hr.textSource_fits
  exact Source.combine_fits left right fun _ _ _ => regular_pure _

/-! ## Points in time and durations -/

theorem shift_regular {α : Type} (output : Base) (op : BinaryOp) (add : Period → Option α)
    (p : Period) : (shift output op add p).Regular R m :=
  (regular_inRange _ _).andThen fun _ => regular_inRange _ _

/-- Every pairing of kinds that has a sum or difference also has its computer. -/
theorem temporalSum_sound {op : BinaryOp} (hop : op = .plus ∨ op = .minus) {x y k : Kind}
    (ht : temporalSumType op x y = some (.ok k)) {sx : Source x.Carrier} {sy : Source y.Carrier}
    (hx : sx.Fits R o₁) (hy : sy.Fits R o₂) :
    ∃ d, temporal op (some k) (.of x sx) (.of y sy) = .ok d ∧ d.Fits R (.of k (o₁ || o₂)) := by
  rcases hop with rfl | rfl <;> cases x <;> cases y <;> cases ht <;>
    refine ⟨_, rfl, .of (Source.combine_fits hx hy fun _ _ _ => ?_)⟩ <;>
    first
    | exact regular_inRange _ _
    | exact shift_regular _ _ _ _
    | exact regular_pure _

/-- So has every pairing that has a multiple. -/
theorem temporalProduct_sound {x y k : Kind} (ht : temporalProductType x y = some k)
    {sx : Source x.Carrier} {sy : Source y.Carrier} (hx : sx.Fits R o₁) (hy : sy.Fits R o₂) :
    ∃ d, temporal .multiply (some k) (.of x sx) (.of y sy) = .ok d ∧
      d.Fits R (.of k (o₁ || o₂)) := by
  cases x <;> cases y <;> cases ht
  · exact ⟨_, rfl, .of (Bool.or_comm _ _ ▸ Source.combine_fits hy hx fun _ _ _ =>
      regular_inRange _ _)⟩
  · exact ⟨_, rfl, .of (Bool.or_comm _ _ ▸ Source.combine_fits hy hx fun _ _ _ =>
      regular_inRange _ _)⟩
  · exact ⟨_, rfl, .of (Source.combine_fits hx hy fun _ _ _ => regular_inRange _ _)⟩
  · exact ⟨_, rfl, .of (Source.combine_fits hx hy fun _ _ _ => regular_inRange _ _)⟩

theorem temporal_sound {op : BinaryOp}
    (ht : temporalType op a b (a.isOptional || b.isOptional) = .ok t) (hl : l.Fits R a)
    (hr : r.Fits R b) : ∃ d, temporal op t.base l r = .ok d ∧ d.Fits R t := by
  cases hl with
  | missing => cases op <;> cases ht
  | @of x _ _ fx =>
      cases hr with
      | missing => cases op <;> cases ht
      | @of y _ _ fy =>
          cases op <;> simp only [temporalType] at ht <;> try cases ht
          case plus | minus =>
            split at ht
            · next hk =>
                cases ht
                exact temporalSum_sound (by simp) hk fx fy
            · cases ht
            · cases ht
          case multiply =>
            split at ht
            · next hk =>
                cases ht
                exact temporalProduct_sound hk fx fy
            · cases ht

/-- Whether a kind is one of points in time or durations. -/
def isTemporal (k : Kind) : Bool := k.isDuration || k.hasDatePart || k.hasTimePart

theorem temporalSumType_temporal {op : BinaryOp} (hop : op = .plus ∨ op = .minus) {x y k : Kind}
    (h : temporalSumType op x y = some (.ok k)) : isTemporal k := by
  rcases hop with rfl | rfl <;> cases x <;> cases y <;> cases h <;> rfl

theorem temporalProductType_temporal {x y k : Kind} (h : temporalProductType x y = some k) :
    isTemporal k := by
  cases x <;> cases y <;> cases h <;> rfl

/-- Temporal arithmetic gives points in time and durations only. -/
theorem temporalType_temporal {op : BinaryOp} (ht : temporalType op a b o = .ok t) :
    op.isArithmetic ∧ ∃ k, t.base = some k ∧ isTemporal k := by
  cases a with
  | missing => cases op <;> cases ht
  | of x _ =>
      cases b with
      | missing => cases op <;> cases ht
      | of y _ =>
          cases op <;> simp only [temporalType] at ht <;> try cases ht
          case plus | minus =>
            split at ht
            · next hk =>
                cases ht
                exact ⟨rfl, _, rfl, temporalSumType_temporal (by simp) hk⟩
            · cases ht
            · cases ht
          case multiply =>
            split at ht
            · next hk =>
                cases ht
                exact ⟨rfl, _, rfl, temporalProductType_temporal hk⟩
            · cases ht

/-! ## All binary operators -/

/-- If the rule of a binary operator accepts the types of its operands, the operator has a
computer, which fits the type of the result. -/
theorem binary_sound {op : BinaryOp} (ht : binaryType op a b = .ok t) (hl : l.Fits R a)
    (hr : r.Fits R b) : ∃ d, binary op t.base l r = .ok d ∧ d.Fits R t := by
  unfold binaryType at ht
  split at ht
  · next h =>
      obtain ⟨rfl, _⟩ := h
      cases ht
      exact ⟨_, rfl, .of (joinTexts_fits hl hr)⟩
  split at ht
  · next h =>
      simp only [Bool.and_eq_true] at h
      exact arithmetic_sound h.1.1 h.1.2 h.2 ht hl hr
  split at ht
  · next h =>
      split at ht <;> cases ht
      next hord =>
        obtain ⟨s, hs, fs⟩ := ordering_sound op hord hl hr
        exact ⟨.boolean s, (Builds.ordering h hs).eq, .of fs⟩
  split at ht
  · next h =>
      split at ht
      · cases ht
      split at ht <;> cases ht
      exact ⟨_, (Builds.equality h).eq, .of (equality_fits op hl hr)⟩
  split at ht
  · next h =>
      split at ht <;> cases ht
      next hb =>
        obtain ⟨x, hx, fx⟩ := hl.as_ok (.inl hb.1)
        obtain ⟨y, hy, fy⟩ := hr.as_ok (.inl hb.2)
        exact ⟨_, (Builds.logical h hx hy).eq, .of (logical_fits op fx fy)⟩
  split at ht
  · next h =>
      subst h
      exact fallback_sound ht hl hr
  · obtain ⟨hop, k, hk, temporal⟩ := temporalType_temporal ht
    obtain ⟨d, hd, fd⟩ := temporal_sound ht hl hr
    -- The bases of the arithmetic on numbers and texts are none of a temporal kind.
    refine ⟨d, (Builds.temporal ?_ ?_ ?_ hop hd).eq, fd⟩
    · rw [hk]
      rintro ⟨⟩
      cases temporal
    · rw [hk]
      rintro ⟨⟩
      cases temporal
    · rw [hk]
      rintro ⟨⟨⟩, _⟩
      cases temporal

end Operator

end Rowwise
