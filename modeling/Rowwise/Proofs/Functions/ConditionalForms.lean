import Rowwise.Proofs.Congruence.Choice
import Rowwise.Proofs.Evaluation.Agreement
import Rowwise.Proofs.Functions.ConditionalTypes
import Rowwise.Runner

/-!
# Conditional forms agree

Calls of `if`, nested blocks and calls of `switch` are built into selections behind selections.
They differ in how a branch becomes a choice and in the base that its value is given as: a call
gives every value as one of the base of its type at once, and blocks do so level by level, at each
level for the type of the blocks from there on.

`Selects` says of a computer that it selects between branches, for any way in which these become
choices.  Selections whose choices agree one by one have the same values (`Selects.agree`), which
settles calls of `switch` against those of `if`: a case that is there is matched where a comparison
with it is true (`sameTruth_matchesCase`).  For blocks the induction is on the selection of the call,
with a base that may be wider than that of the blocks (`Expr.agree_ifBlocks`); at the top both are
the same.

A condition or a value that is not taken may fail.  So nothing can be said of the parts on the way
but what they answer if they do, and definite hosts are asked for, on which all of them have one
answer.
-/

namespace Rowwise

open Eval Typing Functions

variable {ctx : TypingContext} {host : Host} {m : Moment}

/-! ## Chains of selections -/

section Chains

variable {choice choice' : Branch → Source Bool × Computer → Prop} {last last' : Computer → Prop}
  {branches : List Branch} {c d : Computer}

/-- The computer selects between the branches: by the choices that they stand for, one after the
other, and then by what is fallen back to. -/
inductive Selects (choice : Branch → Source Bool × Computer → Prop) (last : Computer → Prop) :
    List Branch → Computer → Prop where
  | last {c : Computer} (fallback : last c) : Selects choice last [] c
  | first {b : Branch} {branches : List Branch} {x : Source Bool × Computer} {c d : Computer}
      (head : choice b x) (rest : Selects choice last branches c)
      (built : Computer.zip (Source.select x.1) x.2 c = .ok d) :
      Selects choice last (b :: branches) d

namespace Selects

/-- The choices are read from what the branches stand for, one after the other. -/
theorem of_firstTrue {α : Type} {stands : Branch → α → Prop} {ps : List α}
    {xs : List (Source Bool × Computer)} {read : α → Except EvalError (Source Bool × Computer)}
    (each : List.Forall₂ stands branches ps)
    (chosen : ∀ b p x, stands b p → read p = .ok x → choice b x) (reads : ps.mapM read = .ok xs)
    (fallback : last c) (built : firstTrue xs c = .ok d) : Selects choice last branches d := by
  induction each generalizing xs d with
  | nil =>
      cases reads
      cases built
      exact .last fallback
  | cons head _ ih =>
      rw [List.mapM_cons] at reads
      obtain ⟨x, hx, reads⟩ := Except.bind_ok reads
      obtain ⟨ys, hys, reads⟩ := Except.bind_ok reads
      cases reads
      obtain ⟨e, rest, built⟩ := Except.bind_ok built
      exact .first (chosen _ _ _ head hx) (ih hys rest) built

/-- Selections agree if their choices do, one by one. -/
theorem agree {f : Branch → Branch} {r : Value → Value → Prop} (h : Selects choice last branches c)
    (h' : Selects choice' last' (branches.map f) d)
    (choices : ∀ b ∈ branches, ∀ x y, choice b x → choice' (f b) y →
      x.1.SameTruth m y.1 ∧ Computer.Agree m r x.2 y.2)
    (otherwise : ∀ c d, last c → last' d → Computer.Agree m r c d) : Computer.Agree m r c d := by
  induction h generalizing d with
  | last given =>
      obtain ⟨given'⟩ := h'
      exact otherwise _ _ given given'
  | first head _ built ih =>
      obtain _ | ⟨head', rest', built'⟩ := h'
      obtain ⟨first, rest⟩ := List.forall_mem_cons.mp choices
      obtain ⟨conditions, values⟩ := first _ _ head head'
      exact .select conditions values (ih rest' rest) built built'

end Selects

end Chains

/-! ## Computers of the forms -/

/-- The computer of an expression when it has been typed. -/
abbrev Expr.computer (ctx : TypingContext) (host : Host) (e : Expr) : Except EvalError Computer :=
  (e.infer ctx).1.build host

/-- The expression is accepted, and its value at the moment is this one. -/
def Expr.Evaluates (ctx : TypingContext) (host : Host) (m : Moment) (e : Expr) (v : Value) : Prop :=
  ∃ t c log, (e.infer ctx).2 = .ok t ∧ e.computer ctx host = .ok c ∧
    (c.value.at_ m log).1 = .ok v

/-- The computer gives the values of an expression as values of a base. -/
def Expr.GivenAs (ctx : TypingContext) (host : Host) (base : Base) (e : Expr) (c : Computer) :
    Prop :=
  ∃ d, e.computer ctx host = .ok d ∧ d.coerce base = .ok c

/-- The choice that a branch stands for: its condition as a truth value, and its value as one of a
base. -/
structure Branch.Chosen (ctx : TypingContext) (host : Host) (base : Base) (b : Branch)
    (x : Source Bool × Computer) : Prop where
  condition : ∃ c, b.condition.computer ctx host = .ok c ∧ c.as .boolean = .ok x.1
  value : b.value.GivenAs ctx host base x.2

/-- The choice that a case stands for: whether it is the value, and its result as one of a base. -/
structure Branch.Matched (ctx : TypingContext) (host : Host) (base : Base) (value : Expr)
    (b : Branch) (x : Source Bool × Computer) : Prop where
  condition : ∃ l k, value.computer ctx host = .ok l ∧ b.condition.computer ctx host = .ok k ∧
    x.1 = matchesCase l k
  value : b.value.GivenAs ctx host base x.2

section Built

variable {branches : List Branch} {value otherwise no : Expr} {t : ValueType} {c : Computer}
  {span : Span}

theorem Branch.built_arguments {cs : List Computer}
    (h : (arguments branches otherwise).mapM (·.computer ctx host) = .ok cs) :
    ∃ ps w, List.Forall₂ (Both fun e c => e.computer ctx host = .ok c) branches ps ∧
      otherwise.computer ctx host = .ok w ∧ cs = interleave ps w :=
  forall₂_arguments.mp (Except.mapM_forall₂ h)

/-- A call of `if` selects between its branches. -/
theorem Expr.build_ifCall (functions : ctx.functions = library)
    (accepted : ((ifCall span branches otherwise).infer ctx).2 = .ok t)
    (built : (ifCall span branches otherwise).computer ctx host = .ok c) :
    Selects (Branch.Chosen ctx host t.base) (otherwise.GivenAs ctx host t.base) branches c := by
  obtain ⟨f, found, only⟩ := exists_if
  rw [← functions] at found
  rw [computer, ifCall, build_infer_variadic found only (Branch.arguments_ne_nil _ _) span accepted]
    at built
  obtain ⟨cs, hcs, built⟩ := Except.bind_ok built
  obtain ⟨ps, w, each, last, rfl⟩ := Branch.built_arguments hcs
  have all : (Arguments.mk [("arguments", interleave ps w)]).all "arguments" = interleave ps w :=
    rfl
  unfold ifBuilder at built
  simp only [all, pairUp_interleave] at built
  obtain ⟨xs, hxs, built⟩ := Except.bind_ok built
  obtain ⟨w', hw', built⟩ := Except.bind_ok built
  refine .of_firstTrue each (fun b p x both hx => ?_) hxs ⟨w, last, hw'⟩ built
  obtain ⟨s, hs, hx⟩ := Except.bind_ok hx
  obtain ⟨v, hv, hx⟩ := Except.bind_ok hx
  cases hx
  exact ⟨⟨p.1, both.1, hs⟩, p.2, both.2, hv⟩

/-- A call of `switch` selects between its cases. -/
theorem Expr.build_switchCall (functions : ctx.functions = library)
    (accepted : ((switchCall span value branches otherwise).infer ctx).2 = .ok t)
    (built : (switchCall span value branches otherwise).computer ctx host = .ok c) :
    Selects (Branch.Matched ctx host t.base value) (otherwise.GivenAs ctx host t.base) branches
      c := by
  obtain ⟨f, found, only⟩ := exists_switch
  rw [← functions] at found
  rw [computer, switchCall, build_infer_required_variadic found only (by decide)
    (Branch.arguments_ne_nil _ _) span accepted] at built
  obtain ⟨l, hl, built⟩ := Except.bind_ok built
  obtain ⟨cs, hcs, built⟩ := Except.bind_ok built
  obtain ⟨ps, w, each, last, rfl⟩ := Branch.built_arguments hcs
  have first : (Arguments.mk [("value", [l]), ("cases", interleave ps w)]).required "value" =
    .ok l := rfl
  have all : (Arguments.mk [("value", [l]), ("cases", interleave ps w)]).all "cases" =
    interleave ps w := rfl
  unfold switchBuilder at built
  simp only [first, all, pairUp_interleave] at built
  obtain ⟨_, hl', built⟩ := Except.bind_ok built
  cases hl'
  obtain ⟨xs, hxs, built⟩ := Except.bind_ok built
  obtain ⟨w', hw', built⟩ := Except.bind_ok built
  refine .of_firstTrue each (fun b p x both hx => ?_) hxs ⟨w, last, hw'⟩ built
  obtain ⟨v, hv, hx⟩ := Except.bind_ok hx
  cases hx
  exact ⟨⟨l, p.1, hl, both.1, rfl⟩, p.2, both.2, hv⟩

/-- A block selects between its branch and what is behind `else`. -/
theorem Expr.build_conditional {b : Branch}
    (accepted : ((Expr.conditional { span := b.span } b.condition b.value no).infer ctx).2 = .ok t)
    (built : (Expr.conditional { span := b.span } b.condition b.value no).computer ctx host =
      .ok c) :
    ∃ x d, b.Chosen ctx host t.base x ∧ no.GivenAs ctx host t.base d ∧
      Computer.zip (Source.select x.1) x.2 d = .ok c := by
  have tree : ((Expr.conditional { span := b.span } b.condition b.value no).infer ctx).1 =
      .conditional { span := b.span, type := some t } (b.condition.infer ctx).1
        (b.value.infer ctx).1 (no.infer ctx).1 := by
    rw [Expr.infer] at accepted ⊢
    exact (settle_ok accepted).2
  rw [computer, tree, Expr.build] at built
  obtain ⟨u, noted, built⟩ := Except.bind_ok built
  cases noted
  obtain ⟨p, hp, built⟩ := Except.bind_ok built
  obtain ⟨s, hs, built⟩ := Except.bind_ok built
  obtain ⟨y, hy, built⟩ := Except.bind_ok built
  obtain ⟨y', hy', built⟩ := Except.bind_ok built
  obtain ⟨n, hn, built⟩ := Except.bind_ok built
  obtain ⟨n', hn', built⟩ := Except.bind_ok built
  exact ⟨(s, y'), n', ⟨⟨p, hp, hs⟩, y, hy, hy'⟩, ⟨n, hn, hn'⟩, built⟩

end Built

/-! ## Parts of both forms -/

section Parts

variable {branches : List Branch} {b : Branch} {value otherwise e : Expr} {t : ValueType}
  {c c' d : Computer} {span span' : Span} {x y : Source Bool × Computer} {base target : Base}
  {v : Value} (functions : ctx.functions = library) (served : host.Definite)
include functions served

theorem Expr.Untyped.definite_computer (untyped : e.Untyped)
    (built : e.computer ctx host = .ok c) : c.Definite :=
  untyped.definite_build served (fun _ _ found => library_proper (functions ▸ found)) built

/-- One run shows what the computer of the expression answers. -/
theorem Expr.Evaluates.answers (h : e.Evaluates ctx host m v) (untyped : e.Untyped) :
    ∃ t c, (e.infer ctx).2 = .ok t ∧ e.computer ctx host = .ok c ∧ c.value.Answers m (.ok v) := by
  obtain ⟨t, c, log, accepted, built, run⟩ := h
  exact ⟨t, c, accepted, built,
    Definite.answers_at (untyped.definite_computer functions served built).value run⟩

/-- The values of an expression agree with themselves. -/
theorem Expr.GivenAs.agree_same (untyped : e.Untyped) (h : e.GivenAs ctx host base c)
    (h' : e.GivenAs ctx host base d) : Computer.Agree m Eq c d := by
  obtain ⟨u, hu, hc⟩ := h
  obtain ⟨u', hu', hd⟩ := h'
  cases hu.symm.trans hu'
  cases hc.symm.trans hd
  exact .refl (((untyped.definite_computer functions served hu).coerce base).self hc)

/-- Given as of two bases, they agree as values of the wider one. -/
theorem Expr.GivenAs.agree (untyped : e.Untyped) (h : e.GivenAs ctx host target c)
    (h' : e.GivenAs ctx host t.base d) (wide : Computer.coercible t target) :
    Computer.Agree m (fun v u => v = u.widen target) c d := by
  obtain ⟨u, hu, hc⟩ := h
  obtain ⟨u', hu', hd⟩ := h'
  cases hu.symm.trans hu'
  exact (Computer.Agree.of_coerce (untyped.definite_computer functions served hu) hc).widen hd wide

/-- The condition of a branch is the same for both forms. -/
theorem Branch.Chosen.sameTruth (untyped : b.condition.Untyped) (h : b.Chosen ctx host base x)
    (h' : b.Chosen ctx host target y) : x.1.SameTruth m y.1 := by
  obtain ⟨k, hk, hs⟩ := h.condition
  obtain ⟨k', hk', hs'⟩ := h'.condition
  cases hk.symm.trans hk'
  rw [← Except.ok.inj (hs.symm.trans hs')]
  exact .refl (((untyped.definite_computer functions served hk).as .boolean).self hs)

/-! ## Nested blocks -/

/-- A selection agrees with a block if both sides do. -/
theorem Expr.agree_block {r : Value → Value → Prop} (untyped : b.condition.Untyped)
    (head : b.Chosen ctx host target x)
    (built : Computer.zip (Source.select x.1) x.2 c' = .ok c)
    (accepted : ((ifBlocks otherwise (b :: branches)).infer ctx).2 = .ok t)
    (blocks : (ifBlocks otherwise (b :: branches)).computer ctx host = .ok d)
    (yes : ∀ y, b.value.GivenAs ctx host t.base y → Computer.Agree m r x.2 y)
    (no : ∀ n, (ifBlocks otherwise branches).GivenAs ctx host t.base n → Computer.Agree m r c' n) :
    Computer.Agree m r c d := by
  obtain ⟨x', n, head', given, blocks⟩ := build_conditional accepted blocks
  exact .select (head.sameTruth functions served untyped head') (yes _ head'.value) (no n given)
    built blocks

/-- Blocks agree with the selection between values of any base that their type can be given as. -/
theorem Expr.agree_ifBlocks
    (selects : Selects (Branch.Chosen ctx host target) (otherwise.GivenAs ctx host target) branches
      c)
    (untyped : ∀ b ∈ branches, b.Untyped) (last : otherwise.Untyped)
    (accepted : ((ifBlocks otherwise branches).infer ctx).2 = .ok t)
    (wide : Computer.coercible t target)
    (blocks : (ifBlocks otherwise branches).computer ctx host = .ok d) :
    Computer.Agree m (fun v u => v = u.widen target) c d := by
  induction selects generalizing d t with
  | last fallback =>
      obtain ⟨u, hu, hc⟩ := fallback
      cases hu.symm.trans blocks
      exact .of_coerce (last.definite_computer functions served hu) hc
  | first head _ built ih =>
      obtain ⟨first, rest⟩ := List.forall_mem_cons.mp untyped
      obtain ⟨_, _, n, _, _, inner, ruled⟩ := infer_conditional_ok accepted
      refine agree_block functions served first.1 head built accepted blocks
        (fun y hy => head.value.agree functions served first.2 hy wide) fun e ⟨d', hd', he⟩ => ?_
      have deeper := Computer.coercible_trans (coercible_of_conditionalType ruled) wide
      exact (ih rest inner deeper hd').widen he wide

/-- A call of `if` and the blocks agree. -/
theorem Expr.agree_ifCall (given : branches ≠ []) (untyped : ∀ b ∈ branches, b.Untyped)
    (last : otherwise.Untyped) (accepted : ((ifCall span branches otherwise).infer ctx).2 = .ok t)
    (accepted' : ((ifBlocks otherwise branches).infer ctx).2 = .ok t)
    (built : (ifCall span branches otherwise).computer ctx host = .ok c)
    (blocks : (ifBlocks otherwise branches).computer ctx host = .ok d) :
    Computer.Agree m Eq c d := by
  obtain _ | ⟨head, tail, built⟩ := build_ifCall functions accepted built
  · exact absurd rfl given
  · obtain ⟨first, rest⟩ := List.forall_mem_cons.mp untyped
    obtain ⟨_, _, n, _, _, inner, ruled⟩ := infer_conditional_ok accepted'
    refine agree_block functions served first.1 head built accepted' blocks
      (fun y hy => head.value.agree_same functions served first.2 hy) fun e ⟨d', hd', he⟩ => ?_
    exact (agree_ifBlocks functions served tail rest last inner
      (coercible_of_conditionalType ruled) hd').coerce he

end Parts

/-! ## Cases and comparisons -/

theorem Computer.answers_missing {c : Computer} (h : c.isMissing.Answers m (.ok true)) :
    c.value.Answers m (.ok .missing) := by
  cases c with
  | missing => exact answers_pure Value.missing
  | of k s => exact h.bind (answers_pure Value.missing)

/-- A case that is there is matched where it is equal to the value. -/
theorem sameTruth_matchesCase {l k : Computer} (hl : l.Definite) (hk : k.Definite)
    (there : ¬ k.value.Answers m (.ok .missing)) :
    (matchesCase l k).SameTruth m (Operator.equality .equal l k) where
  left := Source.related_along.mp
    (matchesCase_related (Computer.related_along.mpr hl) (Computer.related_along.mpr hk))
  right := Source.related_along.mp (Operator.related_equality .equal
    (Computer.related_along.mpr hl) (Computer.related_along.mpr hk))
  same i j hi hj := by
    have compared : Definite (do pure ((← l.value).equal (← k.value))) :=
      hl.value.bind fun _ => hk.value.bind fun _ => blind_pure _
    have asked : Definite (do
        if ← k.isMissing then pure false
        else do pure ((← l.value).equal (← k.value))) :=
      hk.isMissing.bind fun _ => .ite (blind_pure false) compared
    obtain ⟨v, hv, hj⟩ :=
      Definite.of_bind hl.value (fun _ => hk.value.bind fun _ => blind_pure _) hj
    obtain ⟨w, hw, hj⟩ := Definite.of_bind hk.value (fun _ => blind_pure _) hj
    cases hj.unique (answers_pure _)
    obtain ⟨gone, hgone, hi⟩ :=
      Definite.of_bind hl.isMissing (fun _ => .ite (blind_pure false) asked) hi
    cases gone with
    | true =>
        -- The comparison reads the case also where the value is MISSING.
        cases hi.unique (answers_pure false)
        cases hv.unique (Computer.answers_missing hgone)
        cases w with
        | missing => exact absurd hw there
        | of kind a => rfl
    | false =>
        obtain ⟨gone', hgone', hi⟩ :=
          Definite.of_bind hk.isMissing (fun _ => .ite (blind_pure false) compared) hi
        cases gone' with
        | true => exact absurd (Computer.answers_missing hgone') there
        | false =>
            cases hi.unique (hv.bind (hw.bind (answers_pure (v.equal w))))
            exact (Bool.bne_false _).symm

section Cases

variable {cases : List Branch} {value otherwise : Expr} {t : ValueType} {c d : Computer}
  {span span' : Span}

theorem Expr.build_comparison {case : Expr} {u : ValueType} {s : Source Bool}
    (hv : (value.infer ctx).2 = .ok u) (hk : (case.infer ctx).2 = .ok u.requiredForm)
    (zoned : u.base ≠ some .zonedDateTime)
    (built : (Expr.binary { span } value .equal case).computer ctx host = .ok c)
    (hs : c.as .boolean = .ok s) :
    ∃ l k, value.computer ctx host = .ok l ∧ case.computer ctx host = .ok k ∧
      s = Operator.equality .equal l k := by
  rw [computer, infer_comparison hv hk zoned, Expr.build] at built
  obtain ⟨_, noted, built⟩ := Except.bind_ok built
  cases noted
  obtain ⟨l, hl, built⟩ := Except.bind_ok built
  obtain ⟨k, hk, built⟩ := Except.bind_ok built
  cases built
  cases hs
  exact ⟨l, k, hl, hk, rfl⟩

/-- A call of `switch` and the call of `if` that compares agree. -/
theorem Expr.agree_switchCall (functions : ctx.functions = library) (served : host.Definite)
    (given : cases ≠ []) (input : value.Untyped) (untyped : ∀ b ∈ cases, b.Untyped)
    (last : otherwise.Untyped)
    (accepted : ((switchCall span value cases otherwise).infer ctx).2 = .ok t)
    (built : (switchCall span value cases otherwise).computer ctx host = .ok c)
    (compared : (ifCall span' (cases.map (Branch.comparing value)) otherwise).computer ctx host =
      .ok d)
    (there : ∀ b ∈ cases, ¬ b.condition.Evaluates ctx host m .missing) :
    Computer.Agree m Eq c d := by
  have accepted' := infer_ifCall_comparing functions given span accepted span'
  obtain ⟨u, ps, _, hu, typed, _, zoned, same, _⟩ :=
    infer_switchCall_ok functions given span accepted
  refine (build_switchCall functions accepted built).agree
    (build_ifCall functions accepted' compared) (fun b hb x y hx hy => ⟨?_, ?_⟩)
    fun c d hc hd => hc.agree_same functions served last hd
  · obtain ⟨l, k, hl, hk, matched⟩ := hx.condition
    obtain ⟨e, he, hs⟩ := hy.condition
    have case := Branch.typed_cases typed same b hb
    obtain ⟨l', k', hl', hk', equal⟩ := build_comparison hu case zoned he hs
    -- Both forms compare the same two computers.
    cases hl.symm.trans hl'
    cases hk.symm.trans hk'
    rw [matched, equal]
    exact sameTruth_matchesCase (input.definite_computer functions served hl)
      ((untyped b hb).1.definite_computer functions served hk)
      fun gone => there b hb ⟨_, k, {}, case, hk, gone {}⟩
  · exact hx.value.agree_same functions served (untyped b hb).2 hy.value

end Cases

/-! ## The forms agree -/

/-- The expressions have the same value at the moment if both have one. -/
def Expr.SameValue (ctx : TypingContext) (host : Host) (m : Moment) (e e' : Expr) : Prop :=
  ∀ v w, e.Evaluates ctx host m v → e'.Evaluates ctx host m w → v = w

/-- A call of `if` has the types of nested blocks and, where both evaluate, their values.  A call of
`switch` that is accepted has the type of the call of `if` with comparisons in place of the cases
and, where both evaluate and no case is MISSING, its values. -/
theorem Expr.conditionalForms_agree (functions : ctx.functions = library) (served : host.Definite)
    {branches cases : List Branch} (given : branches ≠ []) (givenCases : cases ≠ [])
    (untyped : ∀ b ∈ branches, b.Untyped) (untypedCases : ∀ b ∈ cases, b.Untyped)
    {value otherwise : Expr} (input : value.Untyped) (last : otherwise.Untyped)
    (span span' : Span) :
    (∀ t, ((ifCall span branches otherwise).infer ctx).2 = .ok t ↔
      ((ifBlocks otherwise branches).infer ctx).2 = .ok t) ∧
    (∀ m, SameValue ctx host m (ifCall span branches otherwise) (ifBlocks otherwise branches)) ∧
    (∀ t, ((switchCall span value cases otherwise).infer ctx).2 = .ok t →
      ((ifCall span' (cases.map (Branch.comparing value)) otherwise).infer ctx).2 = .ok t) ∧
    ∀ m, (∀ b ∈ cases, ¬ b.condition.Evaluates ctx host m .missing) →
      SameValue ctx host m (switchCall span value cases otherwise)
        (ifCall span' (cases.map (Branch.comparing value)) otherwise) := by
  have types (t : ValueType) : ((ifCall span branches otherwise).infer ctx).2 = .ok t ↔
      ((ifBlocks otherwise branches).infer ctx).2 = .ok t :=
    (infer_ifCall functions given span).trans infer_ifBlocks.symm
  refine ⟨types, fun m v w hv hw => ?_,
    fun t accepted => infer_ifCall_comparing functions givenCases span accepted span',
    fun m there v w hv hw => ?_⟩
  · obtain ⟨t, c, accepted, built, hv⟩ :=
      hv.answers functions served (untyped_ifCall untyped last span)
    obtain ⟨t', d, accepted', blocks, hw⟩ :=
      hw.answers functions served (untyped_ifBlocks untyped last)
    cases ((types t).mp accepted).symm.trans accepted'
    exact (agree_ifCall functions served given untyped last accepted accepted' built blocks).values
      v w hv hw
  · obtain ⟨t, c, accepted, built, hv⟩ :=
      hv.answers functions served (untyped_switchCall input untypedCases last span)
    obtain ⟨_, d, _, compared, hw⟩ := hw.answers functions served
      (untyped_ifCall (Branch.untyped_comparing input untypedCases) last span')
    exact (agree_switchCall functions served givenCases input untypedCases last accepted built
      compared there).values v w hv hw

namespace Sample

/-- A table of two rows, which have an index. -/
def rows : TypingContext := Runner.rowContext (.ofSize 2) .empty
def rowsHost : Host := (Table.ofSize 2).host .empty
def firstRow : Moment := ⟨0, default⟩

/-- The index of the row. -/
def index : Expr := .column {} .rowIndex

/-- An INTEGER for the index 0 and a FLOAT for the index 1. -/
def byIndex : List Branch :=
  [⟨{}, .constant {} (.integer 0), .constant {} (.integer 1)⟩,
    ⟨{}, .constant {} (.integer 1), .constant {} (.float 2.5)⟩]

/-- The same with comparisons of the index. -/
def comparisons : List Branch := byIndex.map (Branch.comparing index)

def nothing : Expr := .constant {} .missing

theorem blocks_firstRow :
    (Expr.ifBlocks nothing comparisons).Evaluates rows rowsHost firstRow
      (.of .float (Integer.toFloat 1)) :=
  ⟨.optionalOf .float, _, {}, rfl, rfl, rfl⟩

theorem ifCall_firstRow
    (accepted : ((Expr.ifCall {} comparisons nothing).infer rows).2 = .ok (.optionalOf .float)) :
    ∃ v, (Expr.ifCall {} comparisons nothing).Evaluates rows rowsHost firstRow v := by
  obtain ⟨f, found, only⟩ := exists_if
  have foundHere : rows.functions.get? "if" = some f := found
  have given := Branch.arguments_ne_nil comparisons nothing
  have built : ((Expr.ifCall {} comparisons nothing).infer rows).1.build rowsHost = _ :=
    Expr.build_infer_variadic foundHere only given {} accepted
  exact ⟨_, _, _, {}, accepted, built.trans rfl, rfl⟩

theorem switchCall_firstRow :
    ∃ v, (Expr.switchCall {} index byIndex nothing).Evaluates rows rowsHost firstRow v := by
  obtain ⟨f, found, only⟩ := exists_switch
  have foundHere : rows.functions.get? "switch" = some f := found
  have given := Branch.arguments_ne_nil byIndex nothing
  have typed : (Branch.arguments byIndex nothing).map (fun e => (e.infer rows).2) =
      [ValueType.required .integer, .required .integer, .required .integer, .required .float,
        .missing].map .ok := rfl
  have accepted : ((Expr.switchCall {} index byIndex nothing).infer rows).2 =
      .ok (.optionalOf .float) :=
    (Expr.infer_required_variadic foundHere only (by decide) given {}).mpr
      ⟨.required .integer, _, rfl, typed, rfl, rfl⟩
  have built : ((Expr.switchCall {} index byIndex nothing).infer rows).1.build rowsHost = _ :=
    Expr.build_infer_required_variadic foundHere only (by decide) given {} accepted
  exact ⟨_, _, _, {}, accepted, built.trans rfl, rfl⟩

theorem cases_firstRow :
    ∀ b ∈ byIndex, ¬ b.condition.Evaluates rows rowsHost firstRow .missing := by
  have present (n : Int64) :
      ¬ (Expr.constant {} (.integer n)).Evaluates rows rowsHost firstRow .missing := by
    rintro ⟨_, _, _, _, built, run⟩
    cases built
    cases run
  exact List.forall_mem_cons.mpr ⟨present 0, List.forall_mem_singleton.mpr (present 1)⟩

/-- On the first row all forms have the value of the first branch, as a FLOAT. -/
theorem conditionalForms_firstRow :
    (Expr.ifCall {} comparisons nothing).Evaluates rows rowsHost firstRow
        (.of .float (Integer.toFloat 1)) ∧
      (Expr.switchCall {} index byIndex nothing).Evaluates rows rowsHost firstRow
        (.of .float (Integer.toFloat 1)) := by
  have untyped : ∀ b ∈ byIndex, b.Untyped :=
    List.forall_mem_cons.mpr ⟨⟨rfl, rfl⟩, List.forall_mem_singleton.mpr ⟨rfl, rfl⟩⟩
  have functions : rows.functions = Functions.library := rfl
  have served : rowsHost.Definite := Table.definite_host (.ofSize 2) .empty
  have given : comparisons ≠ [] := List.cons_ne_nil _ _
  have givenCases : byIndex ≠ [] := List.cons_ne_nil _ _
  have input : index.Untyped := rfl
  have last : nothing.Untyped := rfl
  obtain ⟨types, values, _, valuesSwitch⟩ := Expr.conditionalForms_agree functions served given
    givenCases (Branch.untyped_comparing input untyped) untyped input last {} {}
  obtain ⟨v, call⟩ := ifCall_firstRow ((types _).mpr rfl)
  cases values firstRow v _ call blocks_firstRow
  obtain ⟨w, switch⟩ := switchCall_firstRow
  cases valuesSwitch firstRow cases_firstRow w _ switch call
  exact ⟨call, switch⟩

end Sample

end Rowwise
