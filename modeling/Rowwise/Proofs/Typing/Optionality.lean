import Rowwise.Proofs.Typing.Reports

/-!
# Optional names

Take two contexts that know the same names and give each of them one base, where the second context
may call a name optional that the first one requires: `TypingContext.Loosens`.  An expression
without calls is accepted in both contexts or in neither, and its type in the second one is that in
the first one, or its optional form.

What has to be shown is that the rule of every operator looks at the bases of its operands only, and
makes its result optional by a monotone function of theirs.  Two outcomes go *together* if they are
two failures or two related successes, and each rule takes operands that are loosened to outcomes
that go together: `unaryType_together`, `binaryType_together`, `conditionalType_together`.  The
rule of `??` is the one that has to be looked at with care, as it tells MISSING from the other types
and takes optionality away.  By induction on the tree the same holds of typing
(`Expr.together_infer`).
-/

/-- Both programs fail, each for a reason of its own, or both end with results that are related. -/
inductive Except.Together {ε ε' α β : Type} (r : α → β → Prop) :
    Except ε α → Except ε' β → Prop where
  | ok {a : α} {b : β} (related : r a b) : Together r (.ok a) (.ok b)
  | error (e : ε) (e' : ε') : Together r (.error e) (.error e')

namespace Except.Together

variable {ε ε' α β γ δ : Type} {r : α → β → Prop} {s : γ → δ → Prop} {x : Except ε α}
  {y : Except ε' β}

theorem bind (h : Together r x y) {f : α → Except ε γ} {g : β → Except ε' δ}
    (hf : ∀ a b, r a b → Together s (f a) (g b)) : Together s (x.bind f) (y.bind g) := by
  cases h with
  | ok related => exact hf _ _ related
  | error e e' => exact .error e e'

/-- A case distinction that comes out the same on both sides. -/
theorem ite {p q : Prop} [Decidable p] [Decidable q] {x' : Except ε α} {y' : Except ε' β}
    (same : p ↔ q) (h : Together r x y) (h' : Together r x' y') :
    Together r (if p then x else x') (if q then y else y') := by
  by_cases hp : p
  · rw [if_pos hp, if_pos (same.mp hp)]
    exact h
  · rw [if_neg hp, if_neg fun hq => hp (same.mpr hq)]
    exact h'

theorem flip (h : Together r x y) : Together (flip r) y x := by
  cases h with
  | ok related => exact .ok related
  | error e e' => exact .error e' e

theorem isOk_eq (h : Together r x y) : x.isOk = y.isOk := by
  cases h <;> rfl

theorem related {a : α} {b : β} (h : Together r x y) (first : x = .ok a) (second : y = .ok b) :
    r a b := by
  subst first
  subst second
  cases h with
  | ok related => exact related

end Except.Together

namespace Rowwise

open Except Typing

/-! ## Loosened types -/

/-- The types have one base, and the second one is optional wherever the first one is. -/
structure ValueType.Loosens (s t : ValueType) : Prop where
  base : s.base = t.base
  optional : s.isOptional = true → t.isOptional = true

namespace ValueType

variable {a a' b b' s t : ValueType}

theorem Loosens.refl (t : ValueType) : t.Loosens t := ⟨rfl, id⟩

theorem loosens_of {k : Kind} {o p : Bool} (h : o = true → p = true) : (of k o).Loosens (of k p) :=
  ⟨rfl, h⟩

/-- Loosened types are both MISSING, or have one kind. -/
theorem Loosens.cases (h : s.Loosens t) :
    (s = missing ∧ t = missing) ∨
      ∃ k o p, s = of k o ∧ t = of k p ∧ (o = true → p = true) := by
  obtain ⟨base, optional⟩ := h
  cases s with
  | missing =>
      cases t with
      | missing => exact .inl ⟨rfl, rfl⟩
      | of l p => cases base
  | of k o =>
      cases t with
      | missing => cases base
      | of l p =>
          cases base
          exact .inr ⟨k, o, p, rfl, rfl, optional⟩

theorem Loosens.kindSatisfies (h : s.Loosens t) (p : Kind → Bool) :
    s.kindSatisfies p = t.kindSatisfies p := by
  obtain ⟨rfl, rfl⟩ | ⟨k, _, _, rfl, rfl, _⟩ := h.cases <;> rfl

theorem Loosens.isMissing (h : s.Loosens t) : s.isMissing = t.isMissing := by
  obtain ⟨rfl, rfl⟩ | ⟨k, _, _, rfl, rfl, _⟩ := h.cases <;> rfl

theorem Loosens.isMutuallyOrderable (ha : a.Loosens a') (hb : b.Loosens b') :
    a.isMutuallyOrderable b = a'.isMutuallyOrderable b' := by
  simp only [ValueType.isMutuallyOrderable, isNumeric, isOrderable, ha.base, hb.base,
    ha.kindSatisfies, hb.kindSatisfies]

theorem Loosens.isEquatable (ha : a.Loosens a') (hb : b.Loosens b') :
    a.isEquatable b = a'.isEquatable b' := by
  simp only [ValueType.isEquatable, isNumeric, ha.base, hb.base, ha.isMissing, hb.isMissing,
    ha.kindSatisfies, hb.kindSatisfies]

/-- A type that is optional if one of two types is. -/
theorem Loosens.either (ha : a.Loosens a') (hb : b.Loosens b') :
    (a.isOptional || b.isOptional) = true → (a'.isOptional || b'.isOptional) = true := by
  simp only [Bool.or_eq_true]
  exact Or.imp ha.optional hb.optional

/-- A type that is optional if two types are. -/
theorem Loosens.both (ha : a.Loosens a') (hb : b.Loosens b') :
    (a.isOptional && b.isOptional) = true → (a'.isOptional && b'.isOptional) = true := by
  simp only [Bool.and_eq_true]
  exact And.imp ha.optional hb.optional

theorem Loosens.withOptional (h : s.Loosens t) {o p : Bool} (optional : o = true → p = true) :
    (s.withOptional o).Loosens (t.withOptional p) := by
  obtain ⟨rfl, rfl⟩ | ⟨k, _, _, rfl, rfl, _⟩ := h.cases
  · exact .refl _
  · exact loosens_of optional

/-- Loosened types are joined to loosened ones, or cannot be joined. -/
theorem Loosens.join (ha : a.Loosens a') (hb : b.Loosens b') :
    Option.Rel Loosens (a.join b) (a'.join b') := by
  obtain ⟨rfl, rfl⟩ | ⟨k, o, o', rfl, rfl, ho⟩ := ha.cases
  · exact .some (hb.withOptional id)
  obtain ⟨rfl, rfl⟩ | ⟨l, p, p', rfl, rfl, hp⟩ := hb.cases
  · exact .some (ha.withOptional id)
  · have optional := ha.either hb
    unfold ValueType.join
    dsimp only
    split
    · exact .some (loosens_of optional)
    split
    · exact .some (loosens_of optional)
    · exact .none

end ValueType

open ValueType

/-! ## The rules of the operators -/

section Rules

variable {a a' b b' c c' : ValueType} {o o' : Bool}

theorem unaryType_together (op : UnaryOp) (ha : a.Loosens a') :
    Together Loosens (unaryType op a) (unaryType op a') := by
  apply Together.ite _ (.ok ha) (.error _ _)
  cases op with
  | minus =>
      have numeric : a.isNumeric = a'.isNumeric := ha.kindSatisfies _
      have duration : a.isDuration = a'.isDuration := ha.kindSatisfies _
      dsimp only
      rw [numeric, duration]
  | not =>
      dsimp only
      rw [ha.base]

theorem arithmeticType_together (op : BinaryOp) (ha : a.Loosens a') (hb : b.Loosens b')
    (optional : o = true → o' = true) :
    Together Loosens (arithmeticType op a b o) (arithmeticType op a' b' o') := by
  unfold arithmeticType
  rw [ha.base, hb.base]
  cases op
  case floorDivide =>
    dsimp only
    split
    · exact .ok (loosens_of optional)
    · exact .error _ _
  all_goals exact .ok (loosens_of optional)

theorem fallbackType_together (ha : a.Loosens a') (hb : b.Loosens b') :
    Together Loosens (fallbackType a b) (fallbackType a' b') := by
  -- Beside MISSING the other side is the result as it is, and is loosened like it.
  obtain ⟨rfl, rfl⟩ | ⟨k, p, p', rfl, rfl, _⟩ := ha.cases
  · obtain ⟨rfl, rfl⟩ | ⟨l, q, q', rfl, rfl, _⟩ := hb.cases
    · exact .error _ _
    · exact .ok hb
  obtain ⟨rfl, rfl⟩ | ⟨l, q, q', rfl, rfl, _⟩ := hb.cases
  · exact .ok ha
  · have joined := ha.join hb
    have optional := ha.both hb
    unfold fallbackType
    dsimp only
    generalize (of k p).join (of l q) = j, (of k p').join (of l q') = j' at joined
    cases joined with
    | none => exact .error _ _
    | some loosened => exact .ok (loosened.withOptional optional)

/-- The kinds of the operands decide whether there is a sum, difference or multiple, and of which
kind it is. -/
theorem temporalType_together (op : BinaryOp) (ha : a.Loosens a') (hb : b.Loosens b')
    (optional : o = true → o' = true) :
    Together Loosens (temporalType op a b o) (temporalType op a' b' o') := by
  obtain ⟨rfl, rfl⟩ | ⟨k, p, p', rfl, rfl, _⟩ := ha.cases
  · cases op <;> exact .error _ _
  obtain ⟨rfl, rfl⟩ | ⟨l, q, q', rfl, rfl, _⟩ := hb.cases
  · cases op <;> exact .error _ _
  unfold temporalType
  cases op
  case plus | minus =>
    dsimp only
    split
    · exact .ok (loosens_of optional)
    · exact .error _ _
    · exact .error _ _
  case multiply =>
    dsimp only
    split
    · exact .ok (loosens_of optional)
    · exact .error _ _
  all_goals exact .error _ _

/-- The bases alone decide which rule is asked, so that it is the same one on both sides. -/
theorem binaryType_together (op : BinaryOp) (ha : a.Loosens a') (hb : b.Loosens b') :
    Together Loosens (binaryType op a b) (binaryType op a' b') := by
  have optional := ha.either hb
  have numbers : a.isNumeric = a'.isNumeric ∧ b.isNumeric = b'.isNumeric :=
    ⟨ha.kindSatisfies _, hb.kindSatisfies _⟩
  unfold binaryType
  refine .ite (by rw [ha.base, hb.base]) (.ok (.refl _)) ?_
  refine .ite (by rw [numbers.1, numbers.2]) (arithmeticType_together op ha hb optional) ?_
  refine .ite .rfl ?ordering (.ite .rfl ?equality (.ite .rfl ?logical (.ite .rfl ?fallback ?_)))
  case ordering =>
    exact .ite (by rw [ha.isMutuallyOrderable hb]) (.ok (.refl _)) (.error _ _)
  case equality =>
    refine .ite (by rw [ha.base, hb.base]) (.error _ _) ?_
    exact .ite (by rw [ha.isEquatable hb]) (.ok (.refl _)) (.error _ _)
  case logical =>
    exact .ite (by rw [ha.base, hb.base]) (.ok (loosens_of optional)) (.error _ _)
  case fallback => exact fallbackType_together ha hb
  · exact temporalType_together op ha hb optional

theorem conditionalType_together (hc : c.Loosens c') (ha : a.Loosens a') (hb : b.Loosens b') :
    Together Loosens (conditionalType c a b) (conditionalType c' a' b') := by
  have joined := ha.join hb
  unfold conditionalType
  rw [hc.base]
  generalize a.join b = j, a'.join b' = j' at joined
  split
  · exact .error _ _
  cases joined with
  | none => exact .error _ _
  | some loosened => exact .ok (loosened.withOptional (loosened.either hc))

end Rules

/-! ## Typing -/

namespace Typing

theorem together_mismatched {span : Span} {x y : Except String ValueType}
    (h : Together Loosens x y) : Together Loosens (mismatched span x) (mismatched span y) := by
  cases h with
  | ok loosened => exact .ok loosened
  | error => exact .error _ _

theorem together_resolved {kind : CompileErrorKind} {span : Span}
    {x y : Except Unresolved ValueType} (h : Together Loosens x y) :
    Together Loosens (resolved kind span x) (resolved kind span y) := by
  cases h with
  | ok loosened => exact .ok loosened
  | error e e' => cases e <;> cases e' <;> exact .error _ _

/-- Children that have types on one side have related types on the other one. -/
theorem types_of_together {r : ValueType → ValueType → Prop} {results results' : List Inferred}
    (h : List.Forall₂ (Together r) results results') {types : List ValueType}
    (typed : results = types.map .ok) :
    ∃ types', results' = types'.map .ok ∧ List.Forall₂ r types types' := by
  induction h generalizing types with
  | nil =>
      obtain rfl := List.map_eq_nil_iff.mp typed.symm
      exact ⟨[], rfl, .nil⟩
  | cons head _ ih =>
      cases types with
      | nil => cases typed
      | cons t types =>
          obtain ⟨rfl, rest⟩ := List.cons.inj typed
          obtain ⟨types', rfl, each⟩ := ih rest
          cases head with
          | ok related => exact ⟨_ :: types', rfl, .cons related each⟩

theorem together_allTypes {results results' : List Inferred}
    (h : List.Forall₂ (Together Loosens) results results')
    (honest : ∀ r ∈ results, r ≠ .error []) (honest' : ∀ r ∈ results', r ≠ .error []) :
    Together (List.Forall₂ Loosens) (allTypes results) (allTypes results') := by
  cases typed : allTypes results with
  | ok types =>
      obtain ⟨types', rfl, each⟩ := types_of_together h (allTypes_ok honest typed)
      rw [allTypes_ok_self]
      exact .ok each
  | error errors =>
      cases typed' : allTypes results' with
      | error errors' => exact .error _ _
      | ok types' =>
          have back : List.Forall₂ (Together (flip Loosens)) results' results :=
            h.flip.imp fun _ _ related => related.flip
          obtain ⟨types, rfl, _⟩ := types_of_together back (allTypes_ok honest' typed')
          rw [allTypes_ok_self] at typed
          cases typed

theorem loosens_getD {types types' : List ValueType} (h : List.Forall₂ Loosens types types')
    (i : Nat) : (types.getD i .missing).Loosens (types'.getD i .missing) := by
  induction h generalizing i with
  | nil => exact .refl _
  | cons head _ ih =>
      cases i with
      | zero => exact head
      | succ i => exact ih i

end Typing

/-- The tree has no calls of functions or aggregations. -/
def Expr.CallFree : Expr → Prop
  | .constant .. | .column .. | .flowVariable .. => True
  | .unary _ _ arg => arg.CallFree
  | .binary _ left _ right => left.CallFree ∧ right.CallFree
  | .conditional _ condition yes no => condition.CallFree ∧ yes.CallFree ∧ no.CallFree
  | .call .. => False

/-- Both contexts know the same names, with types of one base, and the second one calls optional at
least what the first one does. -/
structure TypingContext.Loosens (ctx ctx' : TypingContext) : Prop where
  column : ∀ ref, Together ValueType.Loosens (ctx.column ref) (ctx'.column ref)
  flowVariable : ∀ name, Together ValueType.Loosens (ctx.flowVariable name) (ctx'.flowVariable name)

section Nodes

variable {ctx ctx' : TypingContext} {e : Expr}

theorem Expr.Untyped.note_type : ∀ {e : Expr}, e.Untyped → e.note.type = none
  | .constant .., h | .column .., h | .flowVariable .., h => h
  | .unary .., h | .binary .., h | .conditional .., h | .call .., h => h.1

/-- Typing a tree without notes ends with the outcome of the rule of its root. -/
theorem Expr.Untyped.infer_of_settle {r : Inferred} (untyped : e.Untyped)
    (step : ∃ e', e.infer ctx = settle e' r ∧ e'.note = e.note) : (e.infer ctx).2 = r := by
  obtain ⟨e', step, same⟩ := step
  rw [step]
  cases r with
  | error errors => rfl
  | ok t => rw [settle, Expr.type?, same, untyped.note_type]

/-- The node has the type that a rule gives it from the types of its children. -/
def Expr.Ruled (rule : List ValueType → Except String ValueType) (children : List Expr)
    (e : Expr) : Prop :=
  ∀ ctx, ∃ e', e.infer ctx = settle e' ((allTypes (children.map fun c => (c.infer ctx).2)).bind
    fun types => mismatched e.note.span (rule types)) ∧ e'.note = e.note

/-- If the children of a node go together, and its rule takes loosened types to outcomes that go
together, then so do the types of the node. -/
theorem Expr.Ruled.together {rule : List ValueType → Except String ValueType}
    {children : List Expr} (ruled : e.Ruled rule children) (untyped : e.Untyped)
    (each : ∀ c ∈ children, Together Loosens (c.infer ctx).2 (c.infer ctx').2)
    (rules : ∀ types types', List.Forall₂ Loosens types types' →
      Together Loosens (rule types) (rule types')) :
    Together Loosens (e.infer ctx).2 (e.infer ctx').2 := by
  rw [untyped.infer_of_settle (ruled ctx), untyped.infer_of_settle (ruled ctx')]
  have honest (ctx : TypingContext) :
      ∀ r ∈ children.map fun c => (c.infer ctx).2, r ≠ .error [] := by
    intro r hr
    obtain ⟨c, _, rfl⟩ := List.mem_map.mp hr
    exact c.reported.1
  have results : List.Forall₂ (Together Loosens) (children.map fun c => (c.infer ctx).2)
      (children.map fun c => (c.infer ctx').2) := by
    apply List.forall₂_map_left_iff.mpr
    apply List.forall₂_map_right_iff.mpr
    exact List.forall₂_same.mpr each
  apply (together_allTypes results (honest ctx) (honest ctx')).bind
  intro types types' loosened
  exact together_mismatched (rules types types' loosened)

end Nodes

/-- Typing a tree without calls asks for nothing but the bases of the types of names, and what is
optional in it grows with what is optional among them. -/
theorem Expr.together_infer {ctx ctx' : TypingContext} (contexts : ctx.Loosens ctx') :
    ∀ {e : Expr}, e.Untyped → e.CallFree → Together Loosens (e.infer ctx).2 (e.infer ctx').2
  -- The induction is on the tree.  Names go together by assumption, and every other node does
  -- because its children do, as its rule knows of them nothing but their types.
  | .constant note c, untyped, _ => by
      rw [untyped.infer_of_settle ⟨_, rfl, rfl⟩, untyped.infer_of_settle ⟨_, rfl, rfl⟩]
      exact .ok (.refl _)
  | .column note ref, untyped, _ => by
      rw [untyped.infer_of_settle ⟨_, rfl, rfl⟩, untyped.infer_of_settle ⟨_, rfl, rfl⟩]
      exact together_resolved (contexts.column ref)
  | .flowVariable note name, untyped, _ => by
      rw [untyped.infer_of_settle ⟨_, rfl, rfl⟩, untyped.infer_of_settle ⟨_, rfl, rfl⟩]
      exact together_resolved (contexts.flowVariable name)
  | .unary note op arg, untyped, free => by
      have operand := Expr.together_infer contexts untyped.2 free
      have outcome (ctx : TypingContext) : ((Expr.unary note op arg).infer ctx).2 =
          (arg.infer ctx).2.bind fun t => mismatched note.span (unaryType op t) :=
        untyped.infer_of_settle ⟨.unary note op _, rfl, rfl⟩
      rw [outcome, outcome]
      exact operand.bind fun _ _ loosened => together_mismatched (unaryType_together op loosened)
  | .binary note left op right, untyped, free => by
      have hl := Expr.together_infer contexts untyped.2.1 free.1
      have hr := Expr.together_infer contexts untyped.2.2 free.2
      have ruled : (Expr.binary note left op right).Ruled
          (fun types => binaryType op (types.getD 0 .missing) (types.getD 1 .missing))
          [left, right] := fun _ => ⟨.binary note _ op _, rfl, rfl⟩
      apply ruled.together untyped
      · simpa using ⟨hl, hr⟩
      · intro types types' each
        exact binaryType_together op (loosens_getD each 0) (loosens_getD each 1)
  | .conditional note condition yes no, untyped, free => by
      have hc := Expr.together_infer contexts untyped.2.1 free.1
      have hy := Expr.together_infer contexts untyped.2.2.1 free.2.1
      have hn := Expr.together_infer contexts untyped.2.2.2 free.2.2
      have ruled : (Expr.conditional note condition yes no).Ruled
          (fun types => conditionalType (types.getD 0 .missing) (types.getD 1 .missing)
            (types.getD 2 .missing))
          [condition, yes, no] := fun _ => ⟨.conditional note _ _ _, rfl, rfl⟩
      apply ruled.together untyped
      · simpa using ⟨hc, hy, hn⟩
      · intro types types' each
        exact conditionalType_together (loosens_getD each 0) (loosens_getD each 1)
          (loosens_getD each 2)
  | .call .., _, free => free.elim

/-- Optionality does not decide whether a tree without calls is accepted.  In two contexts that
differ in it alone the tree is accepted in both or in neither, and its types have one base; if more
is optional among the names, no less is optional in the tree. -/
theorem Expr.optionality_monotone {ctx ctx' : TypingContext} {e : Expr}
    (contexts : ctx.Loosens ctx') (untyped : e.Untyped) (free : e.CallFree) :
    (e.infer ctx).2.isOk = (e.infer ctx').2.isOk ∧
      ∀ t t', (e.infer ctx).2 = .ok t → (e.infer ctx').2 = .ok t' →
        t.base = t'.base ∧ (t.isOptional = true → t'.isOptional = true) := by
  have outcomes := Expr.together_infer contexts untyped free
  refine ⟨outcomes.isOk_eq, fun t t' first second => ?_⟩
  obtain ⟨base, optional⟩ := outcomes.related first second
  exact ⟨base, optional⟩

namespace Sample

/-- A column `a` of a type. -/
def columnOf (t : ValueType) : TypingContext :=
  { column := fun
      | .named "a" _ => .ok t
      | ref => TypingContext.onlyRows ref
    flowVariable := TypingContext.noFlowVariables
    functions := .empty
    aggregations := .empty }

theorem columnOf_loosens {s t : ValueType} (h : s.Loosens t) :
    (columnOf s).Loosens (columnOf t) where
  column ref := by
    unfold columnOf
    dsimp only
    split
    · exact .ok h
    · cases TypingContext.onlyRows ref with
      | ok u => exact .ok (.refl u)
      | error e => exact .error e e
  flowVariable name := .error _ _

/-- `$a > 1 ? $a : -$a` -/
def absolute : Expr :=
  .conditional {} (.binary {} a .greaterThan (.constant {} (.integer 1))) a (.unary {} .minus a)
where
  a : Expr := .column {} (.named "a" 0)

/-- The comparison of an INTEGER that may be missing is required, and the branches are not. -/
theorem absolute_loosened :
    (columnOf (.required .integer)).Loosens (columnOf (.optionalOf .integer)) ∧
      absolute.Untyped ∧ absolute.CallFree ∧
      (absolute.infer (columnOf (.required .integer))).2 = .ok (.required .integer) ∧
      (absolute.infer (columnOf (.optionalOf .integer))).2 = .ok (.optionalOf .integer) ∧
      (absolute.infer (columnOf (.required .integer))).2.isOk =
        (absolute.infer (columnOf (.optionalOf .integer))).2.isOk := by
  have contexts : (columnOf (.required .integer)).Loosens (columnOf (.optionalOf .integer)) :=
    columnOf_loosens (loosens_of fun h => by cases h)
  have untyped : absolute.Untyped := by simp [absolute, absolute.a, Expr.Untyped]
  have free : absolute.CallFree := by simp [absolute, absolute.a, Expr.CallFree]
  obtain ⟨accepted, _⟩ := Expr.optionality_monotone contexts untyped free
  exact ⟨contexts, untyped, free, rfl, rfl, accepted⟩

end Sample

end Rowwise
