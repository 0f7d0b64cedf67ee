import Rowwise.Proofs.Parsing.Forward
import Rowwise.Proofs.Typing.History
import Rowwise.Proofs.Typing.Reports

/-!
# Spans are nested

A node of a parsed tree stands for a part of the source that is not empty and begins and ends
between characters.  Its children stand for parts of that part, one behind the other.

Readers skip blanks and comments in front of what they find, and parentheses around an expression
do not belong to it, so the span of a node says little about what was read for it.  The invariant is
about both: `Expr.PlacedIn source lo hi e` says that the tree lies between two offsets, whatever else
stands there, and that all of its nodes are located.  Where a node is put together its span runs
from the beginning of the first child, or of the operator in front of it, to the end of the last one;
`Expr.placedIn_of_children` is the step for all of them.  Each reader of the grammar keeps to the
invariant at every depth of nesting (`Grammar.grammar_covers`).

Typing blames nodes at their spans and does not change these, so the mistakes that it reports have
spans of the tree that was parsed.
-/

namespace Rowwise

variable {source : String} {lo mid hi : Nat}

/-! ## Children -/

/-- The values of the arguments of a call. -/
def Args.values (args : Args) : List Expr := args.toList.map (·.2)

/-- The operands, branches or argument values of a node, in the order of the source. -/
def Expr.children : Expr → List Expr
  | .constant .. | .column .. | .flowVariable .. => []
  | .unary _ _ arg => [arg]
  | .binary _ left _ right => [left, right]
  | .conditional _ condition yes no => [condition, yes, no]
  | .call _ _ _ args _ => args.values

theorem Args.nodes_eq (args : Args) : args.nodes = args.values.flatMap Expr.nodes := by
  cases args with
  | nil => rfl
  | cons _ value rest =>
      rw [Args.nodes, Args.nodes_eq rest]
      rfl

/-- The nodes of a tree are its root and those of the children. -/
theorem Expr.nodes_eq (e : Expr) : e.nodes = e :: e.children.flatMap Expr.nodes := by
  cases e with
  | constant | column | flowVariable => rfl
  | unary => simp [Expr.nodes, Expr.children]
  | binary => simp [Expr.nodes, Expr.children]
  | conditional => simp [Expr.nodes, Expr.children]
  | call => rw [Expr.nodes, Args.nodes_eq, Expr.children]

theorem Expr.self_mem_nodes (e : Expr) : e ∈ e.nodes := by
  rw [Expr.nodes_eq]
  exact .head _

theorem Expr.children_withSpan (e : Expr) (span : Span) :
    (e.withSpan span).children = e.children := by
  cases e <;> rfl

theorem Expr.span_withSpan (e : Expr) (span : Span) : (e.withSpan span).span = span := by
  cases e <;> rfl

theorem Args.values_ofList (args : List (Option String × Expr)) :
    (Args.ofList args).values = args.map (·.2) := by
  rw [Args.values, Args.toList_ofList]

mutual

/-- What holds of a node once it holds of its children holds of every tree. -/
theorem Expr.induction_children {P : Expr → Prop}
    (step : ∀ e : Expr, (∀ child ∈ e.children, P child) → P e) : ∀ e, P e
  | .constant .. | .column .. | .flowVariable .. =>
      step _ fun _ h => absurd h List.not_mem_nil
  | .unary _ _ arg => step _ fun _ h => by
      rw [List.mem_singleton.mp h]
      exact arg.induction_children step
  | .binary _ left _ right => step _ <| List.forall_mem_cons.mpr
      ⟨left.induction_children step, fun _ h => by
        rw [List.mem_singleton.mp h]
        exact right.induction_children step⟩
  | .conditional _ condition yes no => step _ <| List.forall_mem_cons.mpr
      ⟨condition.induction_children step, List.forall_mem_cons.mpr
        ⟨yes.induction_children step, fun _ h => by
          rw [List.mem_singleton.mp h]
          exact no.induction_children step⟩⟩
  | .call _ _ _ args _ => step _ (args.induction_values step)

theorem Args.induction_values {P : Expr → Prop}
    (step : ∀ e : Expr, (∀ child ∈ e.children, P child) → P e) :
    ∀ args : Args, ∀ v ∈ args.values, P v
  | .nil => fun _ h => absurd h List.not_mem_nil
  | .cons _ value rest => List.forall_mem_cons.mpr
      ⟨value.induction_children step, rest.induction_values step⟩

end

/-! ## Trees between two offsets -/

/-- The node stands for a part of the source, and its children for parts of it in their order. -/
structure Expr.Located (source : String) (n : Expr) : Prop where
  nonempty : n.span.length ≠ 0
  starts : IsBoundary source n.span.offset
  finishes : IsBoundary source n.span.finish
  inside : ∀ child ∈ n.children,
    n.span.offset ≤ child.span.offset ∧ child.span.finish ≤ n.span.finish
  inOrder : n.children.Pairwise fun first second => first.span.finish ≤ second.span.offset

/-- The tree lies between two offsets of the source, and all of its nodes are located. -/
structure Expr.PlacedIn (source : String) (lo hi : Nat) (e : Expr) : Prop where
  behind : lo ≤ e.span.offset
  before : e.span.finish ≤ hi
  located : ∀ n ∈ e.nodes, n.Located source

namespace Expr.PlacedIn

variable {e : Expr}

theorem widen {lo' hi' : Nat} (h : e.PlacedIn source lo hi) (behind : lo' ≤ lo)
    (before : hi ≤ hi') : e.PlacedIn source lo' hi' :=
  ⟨Nat.le_trans behind h.behind, Nat.le_trans h.before before, h.located⟩

/-- A tree lies between the ends of its own span. -/
theorem tighten (h : e.PlacedIn source lo hi) :
    e.PlacedIn source e.span.offset e.span.finish :=
  ⟨Nat.le_refl _, Nat.le_refl _, h.located⟩

theorem root (h : e.PlacedIn source lo hi) : e.Located source := h.located e e.self_mem_nodes

theorem offset_lt_finish (h : e.PlacedIn source lo hi) : e.span.offset < e.span.finish :=
  Nat.lt_add_of_pos_right (Nat.pos_of_ne_zero h.root.nonempty)

end Expr.PlacedIn

/-- Trees that lie one behind the other. -/
abbrev PlacedInTurn (source : String) : Nat → Nat → List Expr → Prop :=
  InTurn (Expr.PlacedIn source)

theorem PlacedInTurn.mem {es : List Expr} (h : PlacedInTurn source lo hi es) :
    lo ≤ hi ∧ ∀ e ∈ es, e.PlacedIn source lo hi := by
  induction h with
  | nil le => exact ⟨le, fun e he => absurd he List.not_mem_nil⟩
  | @cons lo mid hi e es first rest ih =>
      obtain ⟨le, all⟩ := ih
      have inner := first.offset_lt_finish
      have behind := first.behind
      have before := first.before
      refine ⟨by omega, List.forall_mem_cons.mpr ⟨first.widen (Nat.le_refl lo) le, ?_⟩⟩
      intro e he
      exact (all e he).widen (by omega) (Nat.le_refl hi)

theorem PlacedInTurn.extend {es : List Expr} {hi' : Nat} (h : PlacedInTurn source lo hi es)
    (le : hi ≤ hi') : PlacedInTurn source lo hi' es := by
  induction h with
  | nil le' => exact .nil (Nat.le_trans le' le)
  | cons first _ ih => exact .cons first (ih le)

theorem PlacedInTurn.shift {es : List Expr} {lo' : Nat} (h : PlacedInTurn source lo hi es)
    (le : lo' ≤ lo) : PlacedInTurn source lo' hi es := by
  cases h with
  | nil le' => exact .nil (Nat.le_trans le le')
  | cons first rest => exact .cons (first.widen le (Nat.le_refl _)) rest

theorem PlacedInTurn.pairwise {es : List Expr} (h : PlacedInTurn source lo hi es) :
    es.Pairwise fun first second => first.span.finish ≤ second.span.offset := by
  induction h with
  | nil => exact .nil
  | cons first rest ih =>
      refine .cons (fun e he => ?_) ih
      exact Nat.le_trans first.before (PlacedInTurn.mem rest |>.2 e he).behind

/-- A node whose span runs from one boundary to another, with its children in between. -/
theorem Expr.placedIn_of_children {e : Expr} (span : e.span = .between lo hi) (pos : lo < hi)
    (starts : IsBoundary source lo) (finishes : IsBoundary source hi)
    (children : PlacedInTurn source lo hi e.children) : e.PlacedIn source lo hi := by
  have offset : e.span.offset = lo := by rw [span]; rfl
  have length : e.span.length = hi - lo := by rw [span]; rfl
  have finish : e.span.finish = hi := by
    rw [Span.finish, offset, length]
    omega
  refine ⟨Nat.le_of_eq offset.symm, Nat.le_of_eq finish, fun n hn => ?_⟩
  rw [Expr.nodes_eq, List.mem_cons, List.mem_flatMap] at hn
  -- The root is the new node, and every other node is one of a child's, located before.
  rcases hn with rfl | ⟨child, hchild, hn⟩
  · refine ⟨by omega, offset ▸ starts, finish ▸ finishes, fun child hchild => ?_, children.pairwise⟩
    rw [offset, finish]
    exact ⟨(children.mem.2 child hchild).behind, (children.mem.2 child hchild).before⟩
  · exact (children.mem.2 child hchild).located n hn

namespace Grammar

open Reader

/-! ## Operators -/

theorem placedIn_unaryNode {op : UnaryOp} {start : Nat} {arg : Expr}
    (starts : IsBoundary source start) (h : arg.PlacedIn source mid hi) (further : start < mid) :
    (unaryNode op start arg).PlacedIn source start hi := by
  -- The span stops where the operand does, which may be before the end of what was read.
  have inner := h.offset_lt_finish
  have behind := h.behind
  have node : (unaryNode op start arg).PlacedIn source start arg.span.finish :=
    Expr.placedIn_of_children rfl (by omega) starts h.root.finishes
      (.cons (h.tighten.widen (by omega) (Nat.le_refl _)) (.nil (Nat.le_refl _)))
  exact node.widen (Nat.le_refl start) h.before

theorem placedIn_binaryNode {op : BinaryOp} {left right : Expr}
    (hl : left.PlacedIn source lo mid) (hr : right.PlacedIn source mid hi) :
    (binaryNode left op right).PlacedIn source lo hi := by
  have first := hl.offset_lt_finish
  have second := hr.offset_lt_finish
  have meet : left.span.finish ≤ right.span.offset := Nat.le_trans hl.before hr.behind
  have node : (binaryNode left op right).PlacedIn source left.span.offset right.span.finish :=
    Expr.placedIn_of_children rfl (by omega) hl.root.starts hr.root.finishes
      (.cons hl.tighten (.cons (hr.tighten.widen meet (Nat.le_refl _)) (.nil (Nat.le_refl _))))
  exact node.widen hl.behind hr.before

/-- Every operator takes what stands before it as its left operand. -/
theorem placedIn_foldl {rest : List (BinaryOp × Expr)} {first : Expr}
    (placed : first.PlacedIn source lo mid)
    (turn : InTurn (fun lo hi (p : BinaryOp × Expr) => p.2.PlacedIn source lo hi) mid hi rest) :
    (rest.foldl (fun left (op, right) => binaryNode left op right) first).PlacedIn source lo
      hi := by
  -- The left operand grows with each operator, so it is general in the induction.
  induction turn generalizing first with
  | nil le => exact placed.widen (Nat.le_refl lo) le
  | cons next _ ih => exact ih (placedIn_binaryNode placed next)

/-! ## Blanks, names and literals -/

theorem comment_advances : comment.Advances source lo :=
  (consumes_character '#').bind fun _ _ _ _ => (advances_run _).bind fun _ _ _ _ =>
    advances_notAhead _

theorem blanks_advances : blanks.Advances source lo := by
  have blank (lo : Nat) : Reader.Advances source lo
      (orElse (do let _ ← run1 isBlank) comment) :=
    (Covers.bind (consumes_run1 isBlank).advances fun _ _ _ _ => covers_pure trivial).orElse
      comment_advances
  exact (covers_many blank).bind fun _ _ _ _ => covers_pure trivial

theorem name_consumes : name.Consumes source lo :=
  (consumes_satisfying _).consumes_bind fun _ _ =>
    (advances_run _).bind fun _ _ _ _ => covers_pure trivial

theorem keyword_consumes {word : String} (some : word.toList ≠ []) :
    (keyword word).Consumes source lo :=
  (consumes_literal some).consumes_bind fun _ _ => advances_notAhead _

theorem namedConstant_consumes : namedConstant.Consumes source lo :=
  (advances_ahead _).consumes_then fun _ => name_consumes.converted.required

theorem integerLiteral_consumes : integerLiteral.Consumes source lo :=
  (advances_ahead _).consumes_then fun _ => (consumes_run1 _).converted.expecting.required

theorem exponent_advances : exponent.Advances source lo :=
  (consumes_satisfying _).bind fun _ _ _ _ =>
    (consumes_satisfying _).optional.bind fun _ _ _ _ =>
      (consumes_run1 _).bind fun _ _ _ _ => covers_pure trivial

theorem floatLiteral_consumes : floatLiteral.Consumes source lo := by
  refine (covers_choice fun r hr => ?_).converted
  simp only [List.mem_cons, List.not_mem_nil, or_false] at hr
  rcases hr with rfl | rfl | rfl
  · refine (consumes_run1 _).consumes_bind fun _ _ => ?_
    exact (consumes_character _).bind fun _ _ _ _ => (consumes_run1 _).optional.bind fun _ _ _ _ =>
      exponent_advances.optional.bind fun _ _ _ _ => covers_pure trivial
  · refine (consumes_character _).consumes_bind fun _ _ => ?_
    exact (consumes_run1 _).bind fun _ _ _ _ =>
      exponent_advances.optional.bind fun _ _ _ _ => covers_pure trivial
  · refine (consumes_run1 _).consumes_bind fun _ _ => ?_
    exact exponent_advances.bind fun _ _ _ _ => covers_pure trivial

theorem quotedBy_consumes (quote : Char) : (quotedBy quote).Consumes source lo := by
  have char (lo : Nat) : (stringChar quote).Advances source lo :=
    (consumes_satisfying _).advances.orElse <| (consumes_character _).bind fun _ _ _ _ =>
      (consumes_satisfying _).required.bind fun _ _ _ _ => covers_pure trivial
  refine (consumes_character quote).consumes_bind fun _ _ => ?_
  exact (covers_many char).bind fun _ _ _ _ =>
    (consumes_character quote).required.expecting.bind fun _ _ _ _ => covers_pure trivial

theorem stringLiteral_consumes : stringLiteral.Consumes source lo :=
  (quotedBy_consumes '"').orElse (quotedBy_consumes '\'')

theorem rowOffset_advances : rowOffset.Advances source lo :=
  Covers.converted <| (consumes_satisfying _).optional.bind fun _ _ _ _ =>
    (consumes_run1 _).bind fun _ _ _ _ => covers_pure trivial

theorem columnSelector_advances : columnSelector.Advances source lo := by
  refine covers_choice fun r hr => ?_
  simp only [List.mem_cons, List.not_mem_nil, or_false] at hr
  rcases hr with rfl | rfl | rfl | rfl
  · exact (keyword_consumes (by decide)).bind fun _ _ _ _ => covers_pure trivial
  · exact (keyword_consumes (by decide)).bind fun _ _ _ _ => covers_pure trivial
  · exact (keyword_consumes (by decide)).bind fun _ _ _ _ => covers_pure trivial
  · refine stringLiteral_consumes.bind fun _ _ _ _ => ?_
    have offset (lo : Nat) : Reader.Advances source lo (do
        blanks
        let _ ← character ','
        blanks
        required rowOffset) :=
      blanks_advances.bind fun _ _ _ _ => (consumes_character ',').bind fun _ _ _ _ =>
        blanks_advances.bind fun _ _ _ _ => rowOffset_advances.required
    exact (offset _).optional.bind fun _ _ _ _ => covers_pure trivial

theorem bracketed_advances {α : Type} {r : Reader α} (h : ∀ lo, r.Advances source lo) :
    (bracketed r).Advances source lo :=
  (consumes_character '[').bind fun _ _ _ _ => blanks_advances.bind fun _ _ _ _ =>
    (h _).bind fun _ _ _ _ => blanks_advances.bind fun _ _ _ _ =>
      (consumes_character ']').bind fun _ _ _ _ => covers_pure trivial

/-! ## Atoms -/

/-- The atom takes at least one character, and its children lie in what was read for it. -/
def Fills (source : String) (lo hi : Nat) (e : Expr) : Prop :=
  lo < hi ∧ PlacedInTurn source lo hi e.children

theorem fills_leaf {e : Expr} (leaf : e.children = []) (pos : lo < hi) : Fills source lo hi e :=
  ⟨pos, leaf ▸ .nil (Nat.le_of_lt pos)⟩

theorem flowVariableAccess_covers : flowVariableAccess.Covers source lo (Fills source lo) := by
  refine (consumes_literal (by decide)).bind fun mid _ _ pos => ?_
  have name : Reader.Advances source mid (orElse name (bracketed stringLiteral)) :=
    name_consumes.advances.orElse (bracketed_advances fun _ => stringLiteral_consumes.advances)
  exact name.required.bind fun hi _ further _ =>
    covers_pure (fills_leaf rfl (Nat.lt_of_lt_of_le pos further))

theorem columnAccess_covers : columnAccess.Covers source lo (Fills source lo) := by
  refine (consumes_character '$').bind fun mid _ _ pos => ?_
  have ref : Reader.Advances source mid
      (orElse (do pure (.named (← name) 0)) (bracketed columnSelector)) :=
    (Covers.bind name_consumes fun _ _ _ _ => covers_pure trivial).orElse
      (bracketed_advances fun _ => columnSelector_advances)
  exact ref.required.bind fun hi _ further _ =>
    covers_pure (fills_leaf rfl (Nat.lt_of_lt_of_le pos further))

theorem constant_covers {α : Type} {r : Reader α} (h : r.Consumes source lo) (c : α → Constant) :
    Reader.Covers source lo (do pure (.constant {} (c (← r)))) (Fills source lo) :=
  h.bind fun _ _ _ pos => covers_pure (fills_leaf rfl pos)

/-! ## Compound expressions -/

theorem leftGrouped_covers {operand : Reader Expr} {operator : Reader BinaryOp}
    (h : ∀ lo, operand.Covers source lo fun hi => Expr.PlacedIn source lo hi)
    (advances : ∀ lo, operator.Advances source lo) (lo : Nat) :
    (leftGrouped operand operator).Covers source lo fun hi => Expr.PlacedIn source lo hi := by
  have step (lo : Nat) : Reader.Covers source lo (do
      blanks
      let op ← operator
      let right ← required operand
      pure (op, right)) fun hi p => p.2.PlacedIn source lo hi := by
    refine blanks_advances.bind fun _ _ le _ => (advances _).bind fun _ _ le' _ => ?_
    refine (h _).required.bind fun hi _ _ placed => covers_pure ?_
    exact placed.widen (Nat.le_trans le le') (Nat.le_refl hi)
  refine (h lo).bind fun mid first le placed => ?_
  exact (covers_many step).bind fun hi rest _ turn => covers_pure (placedIn_foldl placed turn)

/-- The readers of nested expressions place what they find where they read it. -/
structure Nested.Covers (source : String) (g : Nested) : Prop where
  expr : ∀ lo, g.expr.Covers source lo fun hi => Expr.PlacedIn source lo hi
  notLevel : ∀ lo, g.notLevel.Covers source lo fun hi => Expr.PlacedIn source lo hi
  unaryLevel : ∀ lo, g.unaryLevel.Covers source lo fun hi => Expr.PlacedIn source lo hi
  fallbackLevel : ∀ lo, g.fallbackLevel.Covers source lo fun hi => Expr.PlacedIn source lo hi

namespace Nested

variable {g : Nested}

theorem ifBlock_covers (h : g.Covers source) : g.ifBlock.Covers source lo (Fills source lo) := by
  refine (keyword_consumes (by decide)).bind fun _ _ _ pos => blanks_advances.bind fun _ _ le₁ _ =>
    (consumes_character '(').bind fun _ _ le₂ _ => ?_
  refine (h.expr _).bind fun _ condition le₃ hc => blanks_advances.bind fun _ _ le₄ _ =>
    (consumes_character ')').bind fun _ _ le₅ _ => blanks_advances.bind fun _ _ le₆ _ =>
      (consumes_character '\x7b').bind fun _ _ le₇ _ => Covers.required ?_
  refine (h.expr _).bind fun _ yes le₈ hy => blanks_advances.bind fun _ _ le₉ _ =>
    (consumes_character '\x7d').bind fun _ _ le₁₀ _ => blanks_advances.bind fun _ _ le₁₁ _ =>
      (keyword_consumes (by decide)).bind fun _ _ le₁₂ _ => blanks_advances.bind fun _ _ le₁₃ _ =>
        (consumes_character '\x7b').bind fun _ _ le₁₄ _ => ?_
  refine (h.expr _).bind fun _ no le₁₅ hn => blanks_advances.bind fun _ _ le₁₆ _ =>
    (consumes_character '\x7d').bind fun hi _ le₁₇ _ => covers_pure ⟨by omega, ?_⟩
  exact .cons (hc.widen (by omega) (Nat.le_refl _)) (.cons (hy.widen (by omega) (Nat.le_refl _))
    (.cons (hn.widen (by omega) (Nat.le_refl _)) (.nil (by omega))))

theorem argument_covers (h : g.Covers source) (lo : Nat) :
    g.argument.Covers source lo fun hi a => a.2.PlacedIn source lo hi := by
  refine Covers.orElse ?_ ((h.expr lo).bind fun _ _ _ placed => covers_pure placed)
  refine blanks_advances.bind fun _ _ le₁ _ => name_consumes.bind fun _ _ le₂ _ =>
    blanks_advances.bind fun _ _ le₃ _ => (consumes_character '=').bind fun _ _ le₄ _ =>
      (advances_notAhead _).bind fun _ _ le₅ _ => ?_
  exact (h.expr _).required.bind fun _ _ _ placed =>
    covers_pure (placed.widen (by omega) (Nat.le_refl _))

theorem placedInTurn_values {args : List (Option String × Expr)}
    (turn : InTurn (fun lo hi (a : Option String × Expr) => a.2.PlacedIn source lo hi) lo hi args) :
    PlacedInTurn source lo hi (args.map (·.2)) := by
  induction turn with
  | nil le => exact .nil le
  | cons first _ ih => exact .cons first ih

theorem arguments_covers (h : g.Covers source) :
    g.arguments.Covers source lo fun hi args => PlacedInTurn source lo hi (args.map (·.2)) := by
  have next (lo : Nat) : Reader.Covers source lo
      (do let _ ← (do blanks; character ','); g.argument) fun hi a => a.2.PlacedIn source lo hi := by
    have comma : Reader.Advances source lo (do blanks; character ',') :=
      blanks_advances.bind fun _ _ _ _ => (consumes_character ',').advances
    exact comma.bind fun _ _ le _ => (argument_covers h _).weaken fun _ _ _ placed =>
      placed.widen le (Nat.le_refl _)
  refine (covers_separatedBy (argument_covers h) next).bind fun _ args _ turn => ?_
  have comma (lo : Nat) : Reader.Advances source lo (do blanks; character ',') :=
    blanks_advances.bind fun _ _ _ _ => (consumes_character ',').advances
  exact (comma _).optional.bind fun _ _ le _ =>
    covers_pure ((placedInTurn_values turn).extend le)

theorem call_covers (h : g.Covers source) : g.call.Covers source lo (Fills source lo) := by
  refine name_consumes.bind fun _ n _ pos => blanks_advances.bind fun _ _ le₁ _ =>
    (consumes_character '(').bind fun mid _ le₂ _ => ?_
  have args : Reader.Covers source mid (do
      let args ← g.arguments
      blanks
      let _ ← character ')'
      pure args) fun hi args => PlacedInTurn source mid hi (args.map (·.2)) :=
    (arguments_covers h).bind fun _ _ _ turn => blanks_advances.bind fun _ _ le _ =>
      (consumes_character ')').bind fun _ _ le' _ => covers_pure (turn.extend (Nat.le_trans le le'))
  refine args.required.bind fun hi args le turn => covers_pure ⟨by omega, ?_⟩
  rw [Expr.children, Args.values_ofList]
  exact turn.shift (by omega)

theorem atom_covers (h : g.Covers source) : g.atom.Covers source lo (Fills source lo) := by
  refine covers_choice fun r hr => ?_
  simp only [List.mem_cons, List.not_mem_nil, or_false] at hr
  rcases hr with rfl | rfl | rfl | rfl | rfl | rfl | rfl | rfl
  · exact ifBlock_covers h
  · exact call_covers h
  · exact flowVariableAccess_covers
  · exact columnAccess_covers
  · exact constant_covers floatLiteral_consumes .float
  · exact constant_covers integerLiteral_consumes .integer
  · exact constant_covers stringLiteral_consumes .string
  · exact constant_covers namedConstant_consumes id

theorem primary_covers (h : g.Covers source) (lo : Nat) :
    g.primary.Covers source lo fun hi => Expr.PlacedIn source lo hi := by
  refine Covers.expecting (blanks_advances.bind fun _ _ le _ => Covers.orElse ?_ ?_)
  · refine (consumes_character '(').bind fun _ _ le₁ _ => ?_
    have close (lo : Nat) : Reader.Advances source lo (do blanks; let _ ← character ')') :=
      blanks_advances.bind fun _ _ _ _ => (consumes_character ')').bind fun _ _ _ _ =>
        covers_pure trivial
    exact (h.expr _).required.bind fun _ _ _ placed => (close _).required.bind fun _ _ le₂ _ =>
      covers_pure (placed.widen (by omega) le₂)
  · refine covers_offset.bind ?_
    rintro _ _ _ ⟨rfl, rfl, starts⟩
    refine (atom_covers h).bind fun hi e _ ⟨pos, children⟩ => covers_offset.bind ?_
    rintro _ _ _ ⟨rfl, rfl, finishes⟩
    have placed := Expr.placedIn_of_children (e := e.withSpan _) (Expr.span_withSpan e _) pos starts
      finishes (e.children_withSpan _ ▸ children)
    exact covers_pure (placed.widen le (Nat.le_refl _))

theorem negation_covers (h : g.Covers source) (lo : Nat) :
    g.negation.Covers source lo fun hi => Expr.PlacedIn source lo hi := by
  refine blanks_advances.bind fun _ _ le _ => covers_offset.bind ?_
  rintro _ _ _ ⟨rfl, rfl, starts⟩
  refine (consumes_character '-').bind fun _ _ _ pos => ?_
  exact (h.unaryLevel _).required.bind fun _ _ _ placed =>
    covers_pure ((placedIn_unaryNode starts placed pos).widen le (Nat.le_refl _))

/-- An operand and perhaps an operator with another operand. -/
theorem optionalRight_covers {operand : Reader Expr} {right : Reader Expr} {op : BinaryOp}
    (h : ∀ lo, operand.Covers source lo fun hi => Expr.PlacedIn source lo hi)
    (hr : ∀ lo, right.Covers source lo fun hi => Expr.PlacedIn source lo hi) (lo : Nat) :
    Reader.Covers source lo (do
      let left ← operand
      let right ← optional right
      pure <|
        match right with
        | some right => binaryNode left op right
        | none => left) fun hi => Expr.PlacedIn source lo hi := by
  refine (h lo).bind fun _ left _ hl => (hr _).optional.bind fun _ right le hr => covers_pure ?_
  cases right with
  | none => exact hl.widen (Nat.le_refl lo) le
  | some right => exact placedIn_binaryNode hl (hr right rfl)

theorem fallback_covers (h : g.Covers source) (lo : Nat) :
    g.fallback.Covers source lo fun hi => Expr.PlacedIn source lo hi := by
  refine optionalRight_covers (primary_covers h) (fun lo => ?_) lo
  refine blanks_advances.bind fun _ _ le _ => (consumes_literal (by decide)).bind fun _ _ le' _ => ?_
  exact ((negation_covers h _).orElse (h.fallbackLevel _)).required.weaken fun _ _ _ placed =>
    placed.widen (Nat.le_trans le le') (Nat.le_refl _)

theorem power_covers (h : g.Covers source) (lo : Nat) :
    g.power.Covers source lo fun hi => Expr.PlacedIn source lo hi := by
  refine optionalRight_covers (fallback_covers h) (fun lo => ?_) lo
  refine blanks_advances.bind fun _ _ le _ => (consumes_literal (by decide)).bind fun _ _ le' _ => ?_
  exact (h.unaryLevel _).required.weaken fun _ _ _ placed =>
    placed.widen (Nat.le_trans le le') (Nat.le_refl _)

theorem operator_advances {symbols : List (String × BinaryOp)}
    (some : ∀ p ∈ symbols, p.1.toList ≠ []) : (operator symbols).Advances source lo := by
  refine covers_choice fun r hr => ?_
  obtain ⟨p, hp, rfl⟩ := List.mem_map.mp hr
  exact (consumes_literal (some p hp)).bind fun _ _ _ _ => covers_pure trivial

theorem multiplicative_advances : multiplicative.Advances source lo := by
  refine covers_choice fun r hr => ?_
  simp only [List.mem_cons, List.not_mem_nil, or_false] at hr
  rcases hr with rfl | rfl | rfl | rfl
  · exact (consumes_literal (by decide)).bind fun _ _ _ _ => covers_pure trivial
  · exact (consumes_literal (by decide)).bind fun _ _ _ _ => covers_pure trivial
  · exact (consumes_literal (by decide)).bind fun _ _ _ _ => (advances_notAhead _).bind
      fun _ _ _ _ => covers_pure trivial
  · exact (consumes_literal (by decide)).bind fun _ _ _ _ => covers_pure trivial

theorem sum_covers (h : g.Covers source) :
    ∀ lo, g.sum.Covers source lo fun hi => Expr.PlacedIn source lo hi := by
  have unary (lo : Nat) : g.unary.Covers source lo fun hi => Expr.PlacedIn source lo hi :=
    (negation_covers h lo).orElse (power_covers h lo)
  exact leftGrouped_covers (leftGrouped_covers unary fun _ => multiplicative_advances)
    fun _ => operator_advances (by decide)

theorem compared_covers (h : g.Covers source) (lo : Nat) :
    g.compared.Covers source lo fun hi => Expr.PlacedIn source lo hi := by
  refine (sum_covers h lo).bind fun mid left _ hl => ?_
  have right : Reader.Covers source mid (do
      blanks
      let op ← comparison
      let right ← required g.sum
      pure (op, right)) fun hi p => p.2.PlacedIn source mid hi := by
    refine blanks_advances.bind fun _ _ le _ => (operator_advances (by decide)).bind
      fun _ _ le' _ => (sum_covers h _).required.bind fun _ _ _ placed => covers_pure ?_
    exact placed.widen (Nat.le_trans le le') (Nat.le_refl _)
  refine right.optional.bind fun hi rest le hr => covers_pure ?_
  cases rest with
  | none => exact hl.widen (Nat.le_refl lo) le
  | some p => exact placedIn_binaryNode hl (hr p rfl)

theorem negated_covers (h : g.Covers source) (lo : Nat) :
    g.negated.Covers source lo fun hi => Expr.PlacedIn source lo hi := by
  have prefixed : Reader.Covers source lo (do
      blanks
      let start ← offset
      keyword "not"
      pure start) fun hi start => lo ≤ start ∧ start < hi ∧ IsBoundary source start := by
    refine blanks_advances.bind fun _ _ le _ => covers_offset.bind ?_
    rintro _ _ _ ⟨rfl, rfl, starts⟩
    exact (keyword_consumes (by decide)).bind fun _ _ _ pos => covers_pure ⟨le, pos, starts⟩
  refine prefixed.optional.bind fun mid start le found => ?_
  cases start with
  | none =>
      exact (compared_covers h mid).weaken fun _ _ _ placed => placed.widen le (Nat.le_refl _)
  | some start =>
      obtain ⟨behind, pos, starts⟩ := found start rfl
      exact (h.notLevel _).required.bind fun _ _ _ placed =>
        covers_pure ((placedIn_unaryNode starts placed pos).widen behind (Nat.le_refl _))

theorem disjunction_covers (h : g.Covers source) :
    ∀ lo, g.disjunction.Covers source lo fun hi => Expr.PlacedIn source lo hi := by
  have word {op : BinaryOp} {text : String} (some : text.toList ≠ []) (lo : Nat) :
      Reader.Advances source lo (do keyword text; pure op) :=
    (keyword_consumes some).bind fun _ _ _ _ => covers_pure trivial
  exact leftGrouped_covers (leftGrouped_covers (negated_covers h) (word (by decide)))
    (word (by decide))

end Nested

/-- At every depth the grammar places what it finds where it reads it. -/
theorem grammar_covers (source : String) : ∀ depth, (grammar depth).Covers source
  | 0 => ⟨fun _ => covers_failed, fun _ => covers_failed, fun _ => covers_failed,
      fun _ => covers_failed⟩
  | depth + 1 =>
      have h := grammar_covers source depth
      ⟨Nested.disjunction_covers h, Nested.negated_covers h,
        fun lo => (Nested.negation_covers h lo).orElse (Nested.power_covers h lo),
        Nested.fallback_covers h⟩

end Grammar

/-- The nodes of a tree that was parsed are located in the source. -/
theorem Expr.located_of_parse {e : Expr} (h : parse source = .ok e) :
    ∀ n ∈ e.nodes, n.Located source := by
  unfold parse at h
  dsimp only at h
  split at h
  · next f after read =>
      cases h
      have whole : (Grammar.whole (source.toList.length + 1)).Covers source 0 fun hi =>
          Expr.PlacedIn source 0 hi :=
        ((Grammar.grammar_covers source _).expr 0).bind fun _ _ _ placed =>
          Grammar.blanks_advances.bind fun _ _ le _ =>
            Reader.advances_atEnd.expecting.bind fun _ _ le' _ =>
              Reader.covers_pure (placed.widen (Nat.le_refl 0) (Nat.le_trans le le'))
      exact (whole _ _ _ (Cursor.in_start source) rfl read).2.2.located
  · cases h
  · cases h

/-! ## What typing blames -/

theorem exists_mem_of_mem_gather {α : Type} {i : Nat} {places : List (List (Path × α))}
    {x : Path × α} (h : x ∈ gather i places) : ∃ l ∈ places, ∃ path, (path, x.2) ∈ l := by
  induction places generalizing i with
  | nil => cases h
  | cons l rest ih =>
      obtain h | h := List.mem_append.mp h
      · obtain ⟨path, _, hx⟩ := mem_below.mp h
        exact ⟨l, .head _, path, hx⟩
      · obtain ⟨l', hl', path, hx⟩ := ih h
        exact ⟨l', .tail _ hl', path, hx⟩

theorem Args.places_eq : ∀ args : Args, args.places = args.values.map Expr.places
  | .nil => rfl
  | .cons _ _ rest => congrArg (_ :: ·) rest.places_eq

theorem Expr.places_eq (e : Expr) :
    e.places = gather 0 (e.children.map Expr.places) ++ [([], e)] := by
  cases e with
  | constant | column | flowVariable | unary | binary | conditional => rfl
  | call => rw [Expr.places, Args.places_eq, Expr.children]

/-- A path leads to a node. -/
theorem Expr.mem_nodes_of_mem_places (e : Expr) :
    ∀ x : Path × Expr, x ∈ e.places → x.2 ∈ e.nodes := by
  induction e using Expr.induction_children with
  | step e ih =>
      intro x hx
      rw [Expr.places_eq] at hx
      rw [Expr.nodes_eq, List.mem_cons, List.mem_flatMap]
      obtain hx | hx := List.mem_append.mp hx
      · obtain ⟨_, hl, path, hx⟩ := exists_mem_of_mem_gather hx
        obtain ⟨child, hchild, rfl⟩ := List.mem_map.mp hl
        exact .inr ⟨child, hchild, ih child hchild (path, x.2) hx⟩
      · rw [List.mem_singleton.mp hx]
        exact .inl rfl

theorem Args.values_fresh : ∀ args : Args, args.fresh.values = args.values.map Expr.fresh
  | .nil => rfl
  | .cons _ _ rest => congrArg (_ :: ·) rest.values_fresh

theorem Expr.children_fresh (e : Expr) : e.fresh.children = e.children.map Expr.fresh := by
  cases e with
  | constant | column | flowVariable | unary | binary | conditional => rfl
  | call => exact Args.values_fresh _

theorem Expr.span_fresh (e : Expr) : e.fresh.span = e.span := by
  cases e <;> rfl

/-- The types that are noted do not matter for the spans. -/
theorem Expr.spans_fresh (e : Expr) : e.fresh.nodes.map Expr.span = e.nodes.map Expr.span := by
  induction e using Expr.induction_children with
  | step e ih =>
      rw [Expr.nodes_eq, Expr.nodes_eq e, List.map_cons, List.map_cons, Expr.span_fresh,
        Expr.children_fresh, List.flatMap_map, List.map_flatMap, List.map_flatMap]
      congr 1
      exact List.flatMap_congr ih

/-- A node of a tree that was typed has a twin in the tree that was parsed. -/
theorem Expr.exists_span_of_mem_inferAll {history : List TypingContext} {e n : Expr}
    (h : n ∈ (e.inferAll history).nodes) : ∃ m ∈ e.nodes, m.span = n.span := by
  have spans : (e.inferAll history).nodes.map Expr.span = e.nodes.map Expr.span := by
    rw [← Expr.spans_fresh, Expr.fresh_inferAll, Expr.spans_fresh]
  exact List.mem_map.mp (spans ▸ List.mem_map_of_mem h)

/-- The spans of a tree that was parsed form a proper nesting: each node stands for a part of the
source that is not empty and begins and ends between characters, and its children stand for parts
of that part, one behind the other.  What typing reports, in any context and after any typings, is
at the span of a node. -/
theorem Expr.spans_nested {e : Expr} (h : parse source = .ok e) :
    (∀ n ∈ e.nodes, n.Located source ∧ n.span.finish ≤ source.utf8ByteSize) ∧
      ∀ history ctx, ∀ err ∈ Typing.errorsOf ((e.inferAll history).infer ctx).2,
        ∃ n ∈ e.nodes, n.span = err.span := by
  refine ⟨fun n hn => ?_, fun history ctx err herr => ?_⟩
  · have located := Expr.located_of_parse h n hn
    exact ⟨located, located.finishes.le⟩
  · obtain ⟨_, report, errors, reports⟩ :
        Reported ctx (e.inferAll history).places ((e.inferAll history).infer ctx).2 :=
      Expr.reported _
    rw [errors] at herr
    obtain ⟨x, hx, rfl⟩ := List.mem_map.mp herr
    obtain ⟨node, hnode, span⟩ := reports.located x hx
    obtain ⟨m, hm, same⟩ :=
      Expr.exists_span_of_mem_inferAll ((e.inferAll history).mem_nodes_of_mem_places _ hnode)
    exact ⟨m, hm, same.trans span.symm⟩

/-- A text with blanks, parentheses, a comment and characters of several bytes. -/
def remark : String := " (-$[\"é\"]) + f(1, # ü\n  x = 2)"

theorem remark_spans_nested : ∃ e, parse remark = .ok e ∧
    e.nodes.map Expr.span = [⟨2, 30⟩, ⟨2, 8⟩, ⟨3, 7⟩, ⟨14, 18⟩, ⟨16, 1⟩, ⟨30, 1⟩] ∧
    (∀ n ∈ e.nodes, n.Located remark ∧ n.span.finish ≤ remark.utf8ByteSize) ∧
    ∀ history ctx, ∀ err ∈ Typing.errorsOf ((e.inferAll history).infer ctx).2,
      ∃ n ∈ e.nodes, n.span = err.span := by
  have spans : (parse remark).toOption.map (·.nodes.map Expr.span) =
      some [⟨2, 30⟩, ⟨2, 8⟩, ⟨3, 7⟩, ⟨14, 18⟩, ⟨16, 1⟩, ⟨30, 1⟩] := by decide +kernel
  cases parsed : parse remark with
  | error issue =>
      rw [parsed] at spans
      cases spans
  | ok e =>
      rw [parsed] at spans
      exact ⟨e, rfl, Option.some.inj spans, Expr.spans_nested parsed⟩

end Rowwise
