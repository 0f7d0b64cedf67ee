import Rowwise.Proofs.Evaluation.Meaning
import Rowwise.Proofs.Evaluation.Soundness

/-!
# Computers hold the values that trees mean

`Computer.Holds m c v` says that at the moment `m` the computer answers just `v`, in both of its
steps: that the value is missing if `v` is, and otherwise that it is there, and then what it is.
The ways to put sources together keep this up, whatever the order in which they ask, and so does
every operator: what it builds from computers that hold its operands holds its result.  So, by
induction over a tree, what is built for it holds its meaning (`Expr.holds_meaning`).

That there is a computer at all is a matter of types and known from the soundness of the evaluator,
so nothing is said about types here before the last theorem.
-/

namespace Rowwise

open Eval

variable {m : Moment}

/-! ## Sources -/

/-- At the moment, the source answers that its value is missing, or that it is there and which. -/
inductive Source.Holds {α : Type} (m : Moment) (s : Source α) : Option α → Prop where
  | absent (gone : s.isMissing.Answers m (.ok true)) : Holds m s none
  | present {a : α} (there : s.isMissing.Answers m (.ok false))
      (value : s.compute.Answers m (.ok a)) : Holds m s (some a)

namespace Source

variable {α β γ : Type} {a : Source α} {b : Source β} {x : Option α} {y : Option β}

theorem Holds.isMissing (h : a.Holds m x) : a.isMissing.Answers m (.ok x.isNone) := by
  cases h with
  | absent gone => exact gone
  | present there _ => exact there

theorem Holds.compute {v : α} (h : a.Holds m (some v)) : a.compute.Answers m (.ok v) := by
  cases h with
  | present _ value => exact value

theorem missing_holds : (Source.missing : Source α).Holds m none := .absent (answers_pure true)

theorem constant_holds (v : α) : (Source.constant v).Holds m (some v) :=
  .present (answers_pure false) (answers_pure v)

theorem present_holds {c : Eval α} {v : α} (h : c.Answers m (.ok v)) :
    (Source.present c).Holds m (some v) := .present (answers_pure false) h

theorem Holds.map (h : a.Holds m x) (f : α → β) : (a.map f).Holds m (x.map f) := by
  cases h with
  | absent gone => exact .absent gone
  | present there value => exact .present there (value.map f)

theorem Holds.tryMap (h : a.Holds m x) {f : α → Eval β}
    (own : ∀ v, x = some v → ∃ w, y = some w ∧ (f v).Answers m (.ok w))
    (absent : x = none → y = none) : (a.tryMap f).Holds m y := by
  cases h with
  | absent gone =>
      rw [absent rfl]
      exact .absent gone
  | present there value =>
      obtain ⟨w, rfl, hw⟩ := own _ rfl
      exact .present there (value.bind hw)

/-- Two values are combined if both are there. -/
theorem Holds.combine {z : Option γ} (ha : a.Holds m x) (hb : b.Holds m y) {f : α → β → Eval γ}
    (own : ∀ v w, x = some v → y = some w → ∃ u, z = some u ∧ (f v w).Answers m (.ok u))
    (absent : x = none ∨ y = none → z = none) : (Source.combine f a b).Holds m z := by
  cases ha with
  | absent gone =>
      rw [absent (.inl rfl)]
      exact .absent (gone.bind (answers_pure true))
  | present there value =>
      cases hb with
      | absent gone' =>
          rw [absent (.inr rfl)]
          exact .absent (there.bind gone')
      | present there' value' =>
          obtain ⟨u, rfl, hu⟩ := own _ _ rfl rfl
          exact .present (there.bind there') (value.bind (value'.bind hu))

theorem Holds.value? (h : a.Holds m x) : a.value?.Answers m (.ok x) := by
  cases h with
  | absent gone => exact gone.bind (answers_pure none)
  | present there value => exact there.bind (value.map some)

theorem Holds.isTrue {c : Source Bool} {x : Option Bool} (h : c.Holds m x) :
    c.isTrue.Answers m (.ok (x == some true)) := by
  cases h with
  | absent gone => exact gone.bind (answers_pure false)
  | present there value =>
      refine there.bind ?_
      rename_i b
      cases b <;> exact value

theorem Holds.select {c : Source Bool} {yes no : Source α} {x : Option Bool} {y n : Option α}
    (hc : c.Holds m x) (hy : yes.Holds m y) (hn : no.Holds m n) :
    (Source.select c yes no).Holds m (if x = some true then y else n) := by
  have asked := hc.isTrue
  -- The branch that is taken is asked in either step.
  split
  · next taken =>
      subst taken
      cases hy with
      | absent gone => exact .absent (asked.bind gone)
      | present there value => exact .present (asked.bind there) (asked.bind value)
  · next other =>
      rw [beq_eq_false_iff_ne.mpr other] at asked
      cases hn with
      | absent gone => exact .absent (asked.bind gone)
      | present there value => exact .present (asked.bind there) (asked.bind value)

theorem Holds.fallback {first second : Source α} {x y : Option α} (hx : first.Holds m x)
    (hy : second.Holds m y) : (Source.fallback first second).Holds m (x.or y) := by
  cases hx with
  | absent gone =>
      cases hy with
      | absent gone' => exact .absent (gone.bind gone')
      | present there value => exact .present (gone.bind there) (gone.bind value)
  | present there value =>
      exact .present (there.bind (answers_pure false)) (there.bind value)

end Source

/-! ## Computers -/

/-- At the moment, the computer answers just the value. -/
inductive Computer.Holds (m : Moment) : Computer → Value → Prop where
  | missing : Holds m .missing .missing
  | of {k : Kind} {s : Source k.Carrier} {x : Option k.Carrier} (h : s.Holds m x) :
      Holds m (.of k s) (.ofOption k x)

@[simp] theorem Value.isMissing_ofOption (k : Kind) (x : Option k.Carrier) :
    (Value.ofOption k x).isMissing = x.isNone := by
  cases x <;> rfl

@[simp] theorem Value.as?_ofOption (k : Kind) (x : Option k.Carrier) :
    (Value.ofOption k x).as? k = x := by
  cases x with
  | none => rfl
  | some a => exact Value.as?_of k a

namespace Computer

variable {c d : Computer} {v w : Value}

theorem Holds.isMissing (h : c.Holds m v) : c.isMissing.Answers m (.ok v.isMissing) := by
  cases h with
  | missing => exact answers_pure true
  | of h =>
      rw [Value.isMissing_ofOption]
      exact h.isMissing

/-- What a computer holds is its value. -/
theorem Holds.value (h : c.Holds m v) : c.value.Answers m (.ok v) := by
  cases h with
  | missing => exact answers_pure Value.missing
  | of h =>
      cases h with
      | absent gone => exact gone.bind (answers_pure Value.missing)
      | present there value => exact there.bind (value.map _)

/-- A computer that holds a present value is one of its kind. -/
theorem Holds.of_present {k : Kind} {a : k.Carrier} (h : c.Holds m (.of k a)) :
    ∃ s, c = .of k s ∧ s.Holds m (some a) := by
  generalize held : Value.of k a = v at h
  cases h with
  | missing => cases held
  | @of l s x h =>
      cases x with
      | none => cases held
      | some b =>
          cases held
          exact ⟨s, rfl, h⟩

theorem constant_holds (v : Value) : (constant v).Holds m v := by
  cases v with
  | missing => exact .missing
  | of k a => exact .of (Source.constant_holds a)

theorem missingOf_holds (base : Base) : (missingOf base).Holds m .missing := by
  cases base with
  | none => exact .missing
  | some k => exact .of (x := none) Source.missing_holds

theorem Holds.as {k : Kind} {s : Source k.Carrier} (h : c.Holds m v) (hs : c.as k = .ok s) :
    s.Holds m (v.as? k) := by
  cases h with
  | missing =>
      cases hs
      exact Source.missing_holds
  | @of l s' x h =>
      by_cases same : l = k
      · subst same
        rw [as_of] at hs
        cases hs
        rwa [Value.as?_ofOption]
      · rw [Computer.as, dif_neg same] at hs
        cases hs

/-- Integers are held as floats. -/
theorem Holds.asFloat {s : Source Float} (h : c.Holds m v) (hs : c.asFloat = .ok s) :
    s.Holds m v.asFloat? := by
  cases h with
  | missing =>
      cases hs
      exact Source.missing_holds
  | @of l s' x h =>
      cases l <;> cases hs
      · have widened := h.map Integer.toFloat
        cases x <;> exact widened
      · cases x <;> exact h

theorem Holds.coerce {target : Base} (h : c.Holds m v) (hd : c.coerce target = .ok d) :
    d.Holds m (v.widen target) := by
  unfold Computer.coerce at hd
  split at hd
  · next same =>
      cases hd
      subst same
      cases h with
      | missing => exact .missing
      | @of k s x h =>
          cases x with
          | none => exact .of h
          | some a => cases k <;> exact .of h
  · split at hd
    · cases hd
      cases h
      exact missingOf_holds target
    · cases hd
      cases h with
      | @of _ _ x h =>
          have widened := h.map Integer.toFloat
          cases x with
          | none => exact .of (k := .float) (x := none) widened
          | some n => exact .of (k := .float) (x := some (Integer.toFloat n)) widened
    · cases hd

/-- Computers of one kind are put together as their sources are. -/
theorem Holds.zip {f : {α : Type} → Source α → Source α → Source α} {e : Computer} {u : Value}
    (hc : c.Holds m v) (hd : d.Holds m w) (he : Computer.zip f c d = .ok e)
    (missing : v = .missing → w = .missing → u = .missing)
    (own : ∀ (k : Kind) (a b : Source k.Carrier) x y, v = .ofOption k x → w = .ofOption k y →
      a.Holds m x → b.Holds m y → ∃ z, u = .ofOption k z ∧ (f a b).Holds m z) : e.Holds m u := by
  cases hc with
  | missing =>
      cases hd with
      | missing =>
          cases he
          rw [missing rfl rfl]
          exact .missing
      | of _ => cases he
  | @of k a x ha =>
      cases hd with
      | missing => cases he
      | @of l b y hb =>
          by_cases same : l = k
          · subst same
            rw [Computer.zip, dif_pos rfl] at he
            cases he
            obtain ⟨z, rfl, hz⟩ := own l a b x y rfl rfl ha hb
            exact .of hz
          · rw [Computer.zip, dif_neg same] at he
            cases he

end Computer

/-! ## Unary operators -/

theorem Eval.answers_inRange {α : Type} {base : Base} {a : Option α} {b : α} (h : a = some b) :
    (inRange base a).Answers m (.ok b) := by
  rw [h]
  exact answers_pure b

namespace Operator

variable {l r d : Computer} {v w x : Value} {op : BinaryOp} {output : Base} {j k n : Kind}

/-- A computation on the present values of a computer. -/
theorem holds_tryMap {s : Source j.Carrier} {f : j.Carrier → Eval k.Carrier}
    (h : (Computer.of j s).Holds m v) (missing : v = .missing → x = .missing)
    (own : ∀ a, v = .of j a → ∃ b, x = .of k b ∧ (f a).Answers m (.ok b)) :
    (Computer.of k (s.tryMap f)).Holds m x := by
  cases h with
  | @of _ _ y h =>
      cases y with
      | none =>
          rw [missing rfl]
          exact .of (x := none) (h.tryMap (fun _ impossible => nomatch impossible) fun _ => rfl)
      | some a =>
          obtain ⟨b, rfl, hb⟩ := own a rfl
          refine .of (x := some b) (h.tryMap (fun c hc => ?_) fun impossible => nomatch impossible)
          cases hc
          exact ⟨b, rfl, hb⟩

theorem holds_map {s : Source j.Carrier} {f : j.Carrier → k.Carrier}
    (h : (Computer.of j s).Holds m v) (missing : v = .missing → x = .missing)
    (own : ∀ a, v = .of j a → x = .of k (f a)) : (Computer.of k (s.map f)).Holds m x := by
  cases h with
  | @of _ _ y h =>
      cases y with
      | none =>
          rw [missing rfl]
          exact .of (x := none) (h.map f)
      | some a =>
          rw [own a rfl]
          exact .of (x := some (f a)) (h.map f)

theorem unary_holds {op : UnaryOp} {c : Computer} (hc : c.Holds m v) (built : unary op c = .ok d)
    (result : Meaning.unary op v = some x) : d.Holds m x := by
  have missing : v = .missing → x = .missing := by
    rintro rfl
    exact (Option.some.inj result).symm
  unfold unary at built
  split at built
  · cases built
    refine holds_map hc missing ?_
    rintro b rfl
    exact (Option.some.inj result).symm
  · cases built
    refine holds_map hc missing ?_
    rintro n rfl
    exact (Option.some.inj result).symm
  · cases built
    refine holds_map hc missing ?_
    rintro y rfl
    exact (Option.some.inj result).symm
  · cases built
    refine holds_map hc missing ?_
    rintro y rfl
    exact (Option.some.inj result).symm
  · cases built
    refine holds_tryMap hc missing ?_
    rintro p rfl
    obtain ⟨q, hq, rfl⟩ := Option.map_eq_some_iff.mp result
    exact ⟨q, rfl, answers_inRange hq⟩
  · cases built

/-! ## Numbers -/

theorem divideIntegers_answers (y z : Int64) :
    (divideIntegers y z).Answers m (.ok (if z = 0 then 0 else y / z)) := by
  unfold divideIntegers
  split
  · exact (answers_warn _).bind (answers_pure 0)
  · exact answers_pure _

theorem remainderOfIntegers_answers (y z : Int64) :
    (remainderOfIntegers y z).Answers m (.ok (if z = 0 then 0 else y % z)) := by
  unfold remainderOfIntegers
  split
  · exact (answers_warn _).bind (answers_pure 0)
  · exact answers_pure _

/-- The warning does not change the result. -/
theorem warnZeroDivisor_answers (what : String) (divisor result : Float) :
    (warnZeroDivisor what divisor result).Answers m (.ok result) := by
  unfold warnZeroDivisor
  split
  · exact (answers_warn _).bind (answers_pure result)
  · exact answers_pure result

/-- A function of two numbers on sources of numbers. -/
theorem holds_numbers {α : Type} {a b : Source α} {y z : Option α} {f : α → α → Eval α}
    {g : α → α → α} (ha : a.Holds m y) (hb : b.Holds m z)
    (own : ∀ s t, (f s t).Answers m (.ok (g s t))) :
    (a.combine f b).Holds m (do pure (g (← y) (← z))) := by
  refine ha.combine hb (fun s t hs ht => ?_) fun absent => ?_
  · subst hs ht
    exact ⟨g s t, rfl, own s t⟩
  · obtain rfl | rfl := absent
    · rfl
    · cases y <;> rfl

theorem integers_holds {a b s : Source Int64} {y z : Option Int64} (ha : a.Holds m y)
    (hb : b.Holds m z) (built : integers op a b = .ok s) :
    s.Holds m (do pure (Meaning.ofInteger op (← y) (← z))) := by
  cases op <;> cases built
  case floorDivide => exact holds_numbers ha hb divideIntegers_answers
  case remainder => exact holds_numbers ha hb remainderOfIntegers_answers
  all_goals exact holds_numbers ha hb fun _ _ => answers_pure _

theorem floats_holds {a b s : Source Float} {y z : Option Float} (ha : a.Holds m y)
    (hb : b.Holds m z) (built : floats op a b = .ok s) :
    s.Holds m (do pure (Meaning.ofFloat op (← y) (← z))) := by
  cases op <;> cases built
  case divide => exact holds_numbers ha hb fun _ _ => warnZeroDivisor_answers _ _ _
  case remainder => exact holds_numbers ha hb fun _ _ => warnZeroDivisor_answers _ _ _
  all_goals exact holds_numbers ha hb fun _ _ => answers_pure _

/-- Arithmetic of integers is missing where one of the values is no integer. -/
theorem arithmetic_integer (op : BinaryOp) (v w : Value) :
    Meaning.arithmetic op (some .integer) v w = some (.ofOption .integer (do
      pure (Meaning.ofInteger op (← v.as? .integer) (← w.as? .integer)))) := by
  cases v with
  | missing => cases w <;> rfl
  | of j y =>
      cases w with
      | missing => cases j <;> rfl
      | of k z => cases j <;> cases k <;> rfl

theorem arithmetic_float (op : BinaryOp) (v w : Value) :
    Meaning.arithmetic op (some .float) v w = some (.ofOption .float (do
      pure (Meaning.ofFloat op (← v.asFloat?) (← w.asFloat?)))) := by
  cases v with
  | missing => cases w <;> rfl
  | of j y =>
      cases w with
      | missing => cases j <;> rfl
      | of k z => cases j <;> cases k <;> rfl

/-! ## Comparisons -/

theorem accepts_eq (op : BinaryOp) (o : Ordering) : accepts op o = Meaning.accepts op o := by
  cases op <;> cases o <;> rfl

/-- Two present values are compared as they are ordered. -/
theorem comparator_holds {cmp : Eval Ordering} {y : j.Carrier} {z : k.Carrier}
    (hl : l.Holds m (.of j y)) (hr : r.Holds m (.of k z)) (built : comparator l r = .ok cmp) :
    ∃ o, Meaning.order (.of j y) (.of k z) = some o ∧ cmp.Answers m (.ok o) := by
  obtain ⟨a, rfl, ha⟩ := hl.of_present
  obtain ⟨b, rfl, hb⟩ := hr.of_present
  unfold comparator at built
  split at built
  · next float =>
      obtain ⟨a', ha', built⟩ := Except.bind_ok built
      obtain ⟨b', hb', built⟩ := Except.bind_ok built
      cases built
      have left := hl.asFloat ha'
      have right := hr.asFloat hb'
      -- One of the kinds is FLOAT, and the other one has a view as floats.
      cases j <;> cases ha' <;> cases k <;> cases hb'
      · simp [Computer.base] at float
      all_goals exact ⟨_, rfl, left.compute.bind (right.compute.bind (answers_pure _))⟩
  · next float =>
      dsimp only at built
      split at built
      · next same =>
          subst same
          split at built
          · next compare known =>
              cases built
              refine ⟨compare y z, ?_, ha.compute.bind (hb.compute.bind (answers_pure _))⟩
              have notFloat : k ≠ .float := fun h => float (.inl (congrArg some h))
              cases k <;> first | exact absurd rfl notFloat | cases known <;> rfl
          · cases built
      · cases built

theorem ordering_holds {s : Source Bool} (hl : l.Holds m v) (hr : r.Holds m w)
    (built : ordering op l r = .ok s) : s.Holds m (some (Meaning.ordering op v w)) := by
  obtain ⟨cmp, hcmp, built⟩ := Except.bind_ok built
  cases built
  refine Source.present_holds (hl.isMissing.bind (hr.isMissing.bind ?_))
  cases v with
  | missing =>
      cases w with
      | missing =>
          simp only [Value.isMissing, Bool.or_self, if_true, Bool.and_true]
          exact answers_pure (isInclusive op)
      | of k z =>
          simp only [Value.isMissing, Bool.or_false, if_true, Bool.and_false]
          exact answers_pure false
  | of j y =>
      cases w with
      | missing =>
          simp only [Value.isMissing, Bool.or_true, if_true, Bool.and_false, Bool.false_and]
          exact answers_pure false
      | of k z =>
          obtain ⟨o, ho, compared⟩ := comparator_holds hl hr hcmp
          have ordered : Meaning.ordering op (.of j y) (.of k z) = accepts op o := by
            rw [Meaning.ordering, ho, accepts_eq]
            · rfl
            all_goals intros; contradiction
          rw [ordered]
          exact compared.bind (answers_pure _)

theorem equality_holds (op : BinaryOp) (hl : l.Holds m v) (hr : r.Holds m w) :
    (equality op l r).Holds m (some (Meaning.equality v w != (op == .notEqual))) := by
  have same : Meaning.equality v w = v.equal w := by
    cases v with
    | missing => cases w <;> rfl
    | of j y =>
        cases w with
        | missing => cases j <;> rfl
        | of k z => rfl
  rw [same]
  exact Source.present_holds (hl.value.bind (hr.value.bind (answers_pure _)))

/-! ## Logic -/

/-- The table of `and` or `or`. -/
def kleene (op : BinaryOp) : Option Bool → Option Bool → Option Bool :=
  if op = .or then Meaning.disjunction else Meaning.conjunction

theorem decide_answers (op : BinaryOp) {a b : Source Bool} {y z : Option Bool} (ha : a.Holds m y)
    (hb : b.Holds m z) : (decide op a b).Answers m (.ok (kleene op y z)) := by
  refine ha.value?.bind ?_
  unfold kleene
  by_cases first : y = some (op == .or)
  · -- The first operand decides on its own, and the second one is not read.
    have decided : (if op = .or then Meaning.disjunction else Meaning.conjunction) y z = y := by
      subst first
      by_cases h : op = .or
      · rw [if_pos h, h]
        rfl
      · rw [if_neg h, beq_eq_false_iff_ne.mpr h]
        rfl
    rw [if_pos first, decided]
    exact answers_pure y
  · rw [if_neg first]
    refine hb.value?.bind ?_
    by_cases h : op = .or
    · subst h
      rcases y with _ | _ | _ <;> rcases z with _ | _ | _ <;>
        first | exact answers_pure _ | exact absurd rfl first
    · rw [beq_eq_false_iff_ne.mpr h] at first ⊢
      rw [if_neg h]
      rcases y with _ | _ | _ <;> rcases z with _ | _ | _ <;>
        first | exact answers_pure _ | exact absurd rfl first

theorem logical_holds (op : BinaryOp) {a b : Source Bool} {y z : Option Bool} (ha : a.Holds m y)
    (hb : b.Holds m z) : (logical op a b).Holds m (kleene op y z) := by
  have decided := decide_answers op ha hb
  cases h : kleene op y z with
  | none =>
      rw [h] at decided
      exact .absent (decided.bind (answers_pure true))
  | some t =>
      rw [h] at decided
      refine .present (decided.bind (answers_pure false)) (decided.bind ?_)
      cases t <;> exact answers_pure _

/-! ## Fallbacks and strings -/

@[simp] theorem isMissing_widen (v : Value) (target : Base) :
    (v.widen target).isMissing = v.isMissing := by
  cases v with
  | missing => rfl
  | of k a =>
      cases k <;> try rfl
      unfold Value.widen
      dsimp only
      split <;> rfl

theorem fallback_holds {l' r' : Computer} (hl : l'.Holds m (v.widen output))
    (hr : r'.Holds m (w.widen output)) (zipped : Computer.zip Source.fallback l' r' = .ok d) :
    d.Holds m ((if v.isMissing then w else v).widen output) := by
  have widened : (if v.isMissing then w else v).widen output =
      if (v.widen output).isMissing then w.widen output else v.widen output := by
    rw [isMissing_widen]
    split <;> rfl
  rw [widened]
  refine hl.zip hr zipped (fun left right => ?_) ?_
  · rw [left, right]
    rfl
  · intro k a b y z left right ha hb
    refine ⟨y.or z, ?_, ha.fallback hb⟩
    rw [left, right]
    cases y <;> rfl

theorem textSource_holds {c : Computer} (h : c.Holds m v) : c.textSource.Holds m (some v.text) :=
  Source.present_holds (h.value.map _)

theorem joinTexts_holds (hl : l.Holds m v) (hr : r.Holds m w) :
    (joinTexts l r).Holds m (some (v.text ++ w.text)) := by
  refine (textSource_holds hl).combine (textSource_holds hr) (fun s t hs ht => ?_) (by simp)
  cases hs
  cases ht
  exact ⟨_, rfl, answers_pure _⟩

/-! ## Points in time and durations -/

/-- A computation on the present values of two computers. -/
theorem holds_combine {a : Source j.Carrier} {b : Source k.Carrier}
    {f : j.Carrier → k.Carrier → Eval n.Carrier} (hl : (Computer.of j a).Holds m v)
    (hr : (Computer.of k b).Holds m w) (missing : v = .missing ∨ w = .missing → x = .missing)
    (own : ∀ y z, v = .of j y → w = .of k z → ∃ u, x = .of n u ∧ (f y z).Answers m (.ok u)) :
    (Computer.of n (a.combine f b)).Holds m x := by
  cases hl with
  | @of _ _ y ha =>
      cases hr with
      | @of _ _ z hb =>
          cases y with
          | none =>
              rw [missing (.inl rfl)]
              exact .of (x := none) (ha.combine hb (fun _ _ no => nomatch no) fun _ => rfl)
          | some y =>
              cases z with
              | none =>
                  rw [missing (.inr rfl)]
                  exact .of (x := none) (ha.combine hb (fun _ _ _ no => nomatch no) fun _ => rfl)
              | some z =>
                  obtain ⟨u, rfl, hu⟩ := own y z rfl rfl
                  refine .of (x := some u) (ha.combine hb (fun y' z' hy hz => ?_) (by simp))
                  cases hy
                  cases hz
                  exact ⟨u, rfl, hu⟩

/-- The parts of a period fit when they are taken once. -/
theorem scale?_one (p : Period) : p.scale? 1 = some p := by
  have once (n : Int32) : Word32.checkedMul n 1 = some n := by
    rw [Word32.checkedMul, show (1 : Int32).toInt = 1 from rfl, Int.mul_one, Word32.ofInt?_toInt]
  rw [Period.scale?, once, once, once]
  rfl

section Own

/-! What an operator does to the present values of its operands. -/

variable {α : Type} {p : Period} {add : Period → Option n.Carrier}

theorem own_pure {a : n.Carrier} (h : Value.of n a = x) :
    ∃ u, x = .of n u ∧ (pure a : Eval n.Carrier).Answers m (.ok u) :=
  ⟨a, h.symm, answers_pure a⟩

theorem own_inRange {a b : Option n.Carrier} (same : a = b)
    (h : ∃ u, b = some u ∧ Value.of n u = x) :
    ∃ u, x = .of n u ∧ (inRange output a).Answers m (.ok u) := by
  obtain ⟨u, hu, rfl⟩ := h
  exact ⟨u, rfl, answers_inRange (same.trans hu)⟩

theorem own_later (h : ∃ u, add p = some u ∧ Value.of n u = x) :
    ∃ u, x = .of n u ∧ (shift output .plus add p).Answers m (.ok u) := by
  obtain ⟨u, hu, rfl⟩ := h
  exact ⟨u, rfl, (answers_inRange (scale?_one p)).bind (answers_inRange hu)⟩

theorem own_earlier (h : ∃ u, p.neg?.bind add = some u ∧ Value.of n u = x) :
    ∃ u, x = .of n u ∧ (shift output .minus add p).Answers m (.ok u) := by
  obtain ⟨u, hu, rfl⟩ := h
  obtain ⟨q, hq, ha⟩ := Option.bind_eq_some_iff.mp hu
  exact ⟨u, rfl, (answers_inRange hq).bind (answers_inRange ha)⟩

end Own

section Temporal

variable (hl : l.Holds m v) (hr : r.Holds m w)
  (missing : v = .missing ∨ w = .missing → x = .missing)
include hl hr missing

theorem sum_holds (built : temporal .plus output l r = .ok d)
    (result : v.isMissing = false → w.isMissing = false → Meaning.sum v w = some x) :
    d.Holds m x := by
  unfold temporal at built
  split at built <;> try contradiction
  all_goals
    cases built
    refine holds_combine hl hr missing fun y z hv hw => ?_
    subst hv hw
    have result := result rfl rfl
    simp only [Meaning.sum, Option.map_eq_some_iff, Option.some.injEq] at result
  · exact own_inRange rfl result
  · exact own_inRange rfl result
  · exact own_later result
  · exact own_pure result
  · exact own_inRange rfl result
  · exact own_later result
  · exact own_inRange rfl result
  · exact own_later result

theorem difference_holds (built : temporal .minus output l r = .ok d)
    (result : v.isMissing = false → w.isMissing = false → Meaning.difference v w = some x) :
    d.Holds m x := by
  unfold temporal at built
  split at built <;> try contradiction
  all_goals
    cases built
    refine holds_combine hl hr missing fun y z hv hw => ?_
    subst hv hw
    have result := result rfl rfl
    simp only [Meaning.difference, Option.map_eq_some_iff, Option.some.injEq] at result
  · exact own_inRange rfl result
  · exact own_inRange rfl result
  · exact own_pure result
  · exact own_inRange rfl result
  · exact own_inRange rfl result
  · exact own_inRange rfl result
  · exact own_earlier result
  · exact own_pure result
  · exact own_inRange rfl result
  · exact own_earlier result
  · exact own_inRange rfl result
  · exact own_earlier result

/-- A duration and an integer are multiplied in either order. -/
theorem product_holds (built : temporal .multiply output l r = .ok d)
    (result : v.isMissing = false → w.isMissing = false → Meaning.product v w = some x) :
    d.Holds m x := by
  unfold temporal at built
  split at built <;> try contradiction
  all_goals
    cases built
    first
    | refine holds_combine hl hr missing fun y z hv hw => ?_
    | refine holds_combine hr hl (fun h => missing h.symm) fun y z hw hv => ?_
    subst hv hw
    have result := result rfl rfl
    simp only [Meaning.product, Option.map_eq_some_iff] at result
    exact own_inRange rfl result

theorem temporal_holds (built : temporal op output l r = .ok d)
    (result : v.isMissing = false → w.isMissing = false → Meaning.temporal op v w = some x) :
    d.Holds m x := by
  cases op with
  | plus => exact sum_holds hl hr missing built result
  | minus => exact difference_holds hl hr missing built result
  | multiply => exact product_holds hl hr missing built result
  | _ => simp [temporal] at built

end Temporal

/-! ## All binary operators -/

theorem binary_of_isArithmetic (h : op.isArithmetic) :
    Meaning.binary op output v w =
      if op = .plus ∧ output = some .string then some (.string (v.text ++ w.text))
      else Meaning.arithmetic op output v w := by
  cases op <;> first | rfl | cases h

/-- Arithmetic with other results than numbers is that of points in time and durations. -/
theorem arithmetic_temporal (integer : output ≠ some .integer) (float : output ≠ some .float)
    (result : Meaning.arithmetic op output v w = some x) :
    (v = .missing ∨ w = .missing → x = .missing) ∧
      (v.isMissing = false → w.isMissing = false → Meaning.temporal op v w = some x) := by
  cases v with
  | missing => exact ⟨fun _ => (Option.some.inj result).symm, fun there => nomatch there⟩
  | of j y =>
      cases w with
      | missing => exact ⟨fun _ => (Option.some.inj result).symm, fun _ there => nomatch there⟩
      | of k z =>
          refine ⟨fun absent => by simp at absent, fun _ _ => ?_⟩
          rw [← result]
          show _ = Meaning.ofPresent op output _ _
          unfold Meaning.ofPresent
          split
          · exact absurd rfl integer
          · exact absurd rfl float
          · rfl

/-- A binary operator builds, from computers that hold its operands, one that holds its result. -/
theorem binary_holds (hl : l.Holds m v) (hr : r.Holds m w) (built : binary op output l r = .ok d)
    (result : Meaning.binary op output v w = some x) : d.Holds m x := by
  -- One case for each way in which an operator builds its computer.
  cases builds_of_binary built with
  | fallback operator left right zipped =>
      cases operator
      cases result
      exact fallback_holds (hl.coerce left) (hr.coerce right) zipped
  | ordering operator computed =>
      have held := ordering_holds hl hr computed
      cases op <;> cases operator <;> cases result <;> exact .of (k := .boolean) (x := some _) held
  | equality operator =>
      have held := equality_holds op hl hr
      cases op <;> cases operator <;> cases result
      · rw [show (BinaryOp.equal == BinaryOp.notEqual) = false from rfl, Bool.bne_false] at held
        exact .of (k := .boolean) (x := some _) held
      · rw [show (BinaryOp.notEqual == BinaryOp.notEqual) = true from rfl, Bool.bne_true] at held
        exact .of (k := .boolean) (x := some _) held
  | logical operator left right =>
      have held := logical_holds op (hl.as left) (hr.as right)
      cases op <;> cases operator <;> cases result <;> exact .of (k := .boolean) held
  | integers left right computed =>
      rw [binary_of_isArithmetic (isArithmetic_of_integers computed), if_neg (by simp),
        arithmetic_integer] at result
      cases result
      exact .of (k := .integer) (integers_holds (hl.as left) (hr.as right) computed)
  | floats left right computed =>
      rw [binary_of_isArithmetic (isArithmetic_of_floats computed), if_neg (by simp),
        arithmetic_float] at result
      cases result
      exact .of (k := .float) (floats_holds (hl.asFloat left) (hr.asFloat right) computed)
  | texts operator =>
      cases operator
      cases result
      exact .of (k := .string) (x := some _) (joinTexts_holds hl hr)
  | temporal integer float string operator computed =>
      rw [binary_of_isArithmetic operator, if_neg fun h => string h.symm] at result
      obtain ⟨missing, present⟩ := arithmetic_temporal integer float result
      exact temporal_holds hl hr missing computed present

end Operator

/-! ## Trees -/

/-- At the moment, the host serves the values of columns and flow variables. -/
structure Host.Holds (host : Host) (V : Valuation) (m : Moment) : Prop where
  column : ∀ ref c, host.column ref = some c → c.Holds m (V.column ref)
  flowVariable : ∀ name c, host.flowVariable name = some c → c.Holds m (V.flowVariable name)

open Evaluation in
theorem Evaluation.base_of_typeOf {e : Expr} {type : ValueType} (h : typeOf e = .ok type) :
    e.note.base = type.base := by
  unfold typeOf at h
  cases noted : e.type? with
  | none =>
      rw [noted] at h
      cases h
  | some t =>
      rw [noted] at h
      cases h
      rw [Note.base, show e.note.type = some type from noted]
      rfl

/-- The branch that is taken is held as a value of the base of both. -/
theorem choose_holds {base : Base} {s : Source Bool} {yes no e : Computer} {v y n : Value}
    (hc : s.Holds m (v.as? .boolean)) (hy : yes.Holds m (y.widen base))
    (hn : no.Holds m (n.widen base)) (built : Computer.zip (Source.select s) yes no = .ok e) :
    e.Holds m (Meaning.choose base v y n) := by
  have taken : v.same (.boolean true) = (v.as? .boolean == some true) := by
    cases v with
    | missing => rfl
    | of k a => cases k <;> rfl
  have chosen : Meaning.choose base v y n =
      if v.as? .boolean = some true then y.widen base else n.widen base := by
    rw [Meaning.choose, taken]
    by_cases h : v.as? .boolean = some true <;> simp [h]
  rw [chosen]
  refine hy.zip hn built (fun left right => ?_) fun k a b s t left right ha hb => ?_
  · rw [left, right, ite_self]
  · refine ⟨_, ?_, hc.select ha hb⟩
    rw [left, right]
    split <;> rfl

/-- What is built for a tree holds what the tree means. -/
theorem Expr.holds_meaning {V : Valuation} {host : Host} (serves : host.Holds V m) :
    ∀ {e : Expr} {c : Computer} {v : Value}, e.build host = .ok c → e.meaning V = some v →
      c.Holds m v
  | .constant _ k, c, v, built, means => by
      cases built
      cases means
      exact Computer.constant_holds _
  | .column _ ref, c, v, built, means => by
      rw [Expr.build] at built
      cases means
      split at built <;> cases built
      next served => exact serves.column ref c served
  | .flowVariable _ name, c, v, built, means => by
      rw [Expr.build] at built
      cases means
      split at built <;> cases built
      next served => exact serves.flowVariable name c served
  | .unary _ op arg, c, v, built, means => by
      rw [Expr.build] at built
      obtain ⟨a, ha, built⟩ := Except.bind_ok built
      obtain ⟨x, hx, means⟩ := Option.bind_eq_some_iff.mp means
      exact Operator.unary_holds (holds_meaning serves ha hx) built means
  | .binary note left op right, c, v, built, means => by
      rw [Expr.build] at built
      obtain ⟨type, typed, built⟩ := Except.bind_ok built
      obtain ⟨l, hl, built⟩ := Except.bind_ok built
      obtain ⟨r, hr, built⟩ := Except.bind_ok built
      obtain ⟨x, hx, means⟩ := Option.bind_eq_some_iff.mp means
      obtain ⟨y, hy, means⟩ := Option.bind_eq_some_iff.mp means
      rw [← Evaluation.base_of_typeOf typed] at built
      exact Operator.binary_holds (holds_meaning serves hl hx) (holds_meaning serves hr hy) built
        means
  | .conditional note condition yes no, c, v, built, means => by
      rw [Expr.build] at built
      obtain ⟨type, typed, built⟩ := Except.bind_ok built
      obtain ⟨a, ha, built⟩ := Except.bind_ok built
      obtain ⟨s, hs, built⟩ := Except.bind_ok built
      obtain ⟨y, hy, built⟩ := Except.bind_ok built
      obtain ⟨y', hy', built⟩ := Except.bind_ok built
      obtain ⟨n, hn, built⟩ := Except.bind_ok built
      obtain ⟨n', hn', built⟩ := Except.bind_ok built
      obtain ⟨x, hx, means⟩ := Option.bind_eq_some_iff.mp means
      obtain ⟨u, hu, means⟩ := Option.bind_eq_some_iff.mp means
      obtain ⟨w, hw, means⟩ := Option.bind_eq_some_iff.mp means
      cases means
      rw [show note.base = type.base from Evaluation.base_of_typeOf typed]
      exact choose_holds ((holds_meaning serves ha hx).as hs)
        ((holds_meaning serves hy hu).coerce hy') ((holds_meaning serves hn hw).coerce hn') built
  | .call _ _ _ _ _, c, v, built, means => nomatch means

/-! ## The evaluator -/

/-- A computer that holds a value of a type fits the type at the moment. -/
theorem Computer.Holds.fits {c : Computer} {v : Value} {t : ValueType} (h : c.Holds m v)
    (base : c.base = t.base) (typed : v.HasType t) : c.Fits (.strict fun n => n = m) t := by
  cases h with
  | missing =>
      cases t with
      | missing => exact .missing
      | of k o => cases base
  | @of k s x h =>
      cases t with
      | missing => cases base
      | of l o =>
          cases base
          refine .of ?_
          rintro _ rfl
          cases h with
          | absent gone =>
              obtain ⟨_, optional⟩ | ⟨_, _, there, _⟩ := typed
              · exact .absent optional gone
              · cases there
          | present there value => exact .present there (.inl ⟨_, value⟩)

/-- At the moment, the host serves the values of columns and flow variables, and the names that a
context types have values of their types. -/
structure Host.Delivers (host : Host) (ctx : TypingContext) (V : Valuation) (m : Moment) : Prop
    extends host.Holds V m where
  columns : ∀ ref t, ctx.column ref = .ok t →
    (V.column ref).HasType t ∧ ∃ c, host.column ref = some c ∧ c.base = t.base
  flowVariables : ∀ name t, ctx.flowVariable name = .ok t →
    (V.flowVariable name).HasType t ∧ ∃ c, host.flowVariable name = some c ∧ c.base = t.base

theorem Host.Delivers.supports {host : Host} {ctx : TypingContext} {V : Valuation} {e : Expr}
    (h : host.Delivers ctx V m) (typed : e.WellTyped ctx) (plain : ¬ e.IsCall) :
    host.Supports (.strict fun n => n = m) e := by
  cases e with
  | column note ref =>
      intro t noted
      obtain ⟨_, hs, hnote⟩ := typed
      cases hnote.symm.trans noted
      obtain ⟨fitting, c, hc, base⟩ := h.columns ref t hs
      exact ⟨c, hc, (h.column ref c hc).fits base fitting⟩
  | flowVariable note name =>
      intro t noted
      obtain ⟨_, hs, hnote⟩ := typed
      cases hnote.symm.trans noted
      obtain ⟨fitting, c, hc, base⟩ := h.flowVariables name t hs
      exact ⟨c, hc, (h.flowVariable name c hc).fits base fitting⟩
  | call note callee name args resolution => exact absurd trivial plain
  | _ => trivial

/-- The lazy computers refine the direct semantics: a well-typed tree without calls has a computer,
whose value is what the tree means unless some part of it is out of range. -/
theorem Expr.WellTyped.refines {host : Host} {ctx : TypingContext} {V : Valuation} {e : Expr}
    (typed : e.WellTyped ctx) (plain : ∀ n ∈ e.nodes, ¬ n.IsCall) (serves : host.Delivers ctx V m)
    (inRange : ∀ n ∈ e.nodes, ¬ n.OutOfRange V) :
    ∃ c v, e.build host = .ok c ∧ e.meaning V = some v ∧ c.value.Answers m (.ok v) := by
  obtain ⟨v, means⟩ := Expr.exists_meaning plain inRange
  have supports : ∀ n ∈ e.nodes, host.Supports (.strict fun n => n = m) n :=
    fun n hn => serves.supports (typed.of_mem_nodes n hn) (plain n hn)
  obtain ⟨c, t, built, _, _⟩ := typed.computes supports
  exact ⟨c, v, built, means, (Expr.holds_meaning serves.toHolds built means).value⟩

namespace Sample

/-- A column `a` of integers that may be missing. -/
def columnA : TypingContext :=
  { context with column := fun
      | .named "a" _ => .ok (.optionalOf .integer)
      | _ => .error (TypingContext.noColumn "") }

/-- A host that serves the column only. -/
def hostA : Host :=
  { Host.empty with
    column := fun
      | .named "a" _ => some gaps
      | _ => none }

/-- The values on an odd row. -/
def noValues : Valuation := ⟨fun _ => .missing, fun _ => .missing⟩

theorem hostA_delivers : hostA.Delivers columnA noValues ⟨1, default⟩ where
  column ref c served := by
    simp only [hostA] at served
    split at served <;> cases served
    exact .of (x := none) (.absent (answers_moment.bind (answers_pure _)))
  flowVariable name c served := nomatch served
  columns ref t typed := by
    simp only [columnA] at typed
    split at typed <;> cases typed
    exact ⟨.inl ⟨rfl, rfl⟩, gaps, rfl, rfl⟩
  flowVariables name t typed := nomatch typed

/-- `$a ?? 1.5`, with its types. -/
def filled : Expr :=
  .binary { type := some (.required .float) }
    (.column { type := some (.optionalOf .integer) } (.named "a" 0)) .missingFallback
    (.constant { type := some (.required .float) } (.float 1.5))

theorem filled_wellTyped : filled.WellTyped columnA :=
  ⟨⟨_, rfl, rfl⟩, rfl, _, _, _, rfl, rfl, rfl, rfl⟩

theorem filled_refines :
    ∃ c v, filled.build hostA = .ok c ∧ filled.meaning noValues = some v ∧
      c.value.Answers ⟨1, default⟩ (.ok v) := by
  refine filled_wellTyped.refines (fun n hn => ?_) hostA_delivers fun n hn => ?_
  · simp only [filled, Expr.nodes, List.cons_append, List.nil_append, List.mem_cons,
      List.not_mem_nil, or_false] at hn
    obtain rfl | rfl | rfl := hn <;> exact id
  · simp only [filled, Expr.nodes, List.cons_append, List.nil_append, List.mem_cons,
      List.not_mem_nil, or_false] at hn
    obtain rfl | rfl | rfl := hn
    · rintro ⟨v, w, _, _, impossible⟩
      cases impossible
    · exact id
    · exact id

end Sample

end Rowwise
