import Rowwise.Proofs.Functions.ConditionalTypes
import Rowwise.Proofs.Evaluation.Refinement

/-!
# What operators and calls end with

`Expr.Compiles` says that an expression is accepted, with which type, and which computer is built
for it; `Expr.Ends` that the computer has a value at a moment, and with what computing that value
ends: with the value itself (`Expr.Yields`) or with an error.  Both are put together from those of
the operands (`Expr.Yields.binary`) and of the arguments (`Expr.Yields.call`,
`Expr.compiles_callOf`).

A function whose parameters take one argument each gets its positional arguments in turn.  The
parameters that are left over have to be optional, and nothing is bound to them
(`bindArguments_fixed`); or the last parameter takes all arguments that are left over
(`bindArguments_rest`).  Whatever is bound, the rule sees its types and the builder its computers
(`Expr.compiles_bound`).
-/

namespace Rowwise

open Eval Typing

variable {m : Moment}

/-! ## Sources -/

/-- At the moment, the source has a value, and computing it ends with this. -/
structure Source.Ends {α : Type} (m : Moment) (s : Source α) (r : Except EvalError α) : Prop where
  there : s.isMissing.Answers m (.ok false)
  value : s.compute.Answers m r

namespace Source

variable {α β γ : Type} {a : Source α} {b : Source β} {v : α} {w : β}

theorem ends_ok_iff : a.Ends m (.ok v) ↔ a.Holds m (some v) := by
  constructor
  · exact fun h => .present h.there h.value
  · intro h
    exact ⟨h.isMissing, h.compute⟩

theorem Holds.ends_map (h : a.Holds m (some v)) (f : α → β) : (a.map f).Ends m (.ok (f v)) :=
  ends_ok_iff.mpr (h.map f)

theorem Holds.ends_combine (ha : a.Holds m (some v)) (hb : b.Holds m (some w))
    {f : α → β → Eval γ} {r : Except EvalError γ} (answers : (f v w).Answers m r) :
    (a.combine f b).Ends m r where
  there := ha.isMissing.bind hb.isMissing
  value := ha.compute.bind (hb.compute.bind answers)

/-- Where all inputs are there, a result of all of them is computed. -/
theorem ends_propagating {inputs : List Computer} {c : Eval α} {r : Except EvalError α}
    (there : ∀ d ∈ inputs, d.isMissing.Answers m (.ok false)) (answers : c.Answers m r) :
    (propagating inputs c).Ends m r where
  there := by
    induction inputs with
    | nil => exact answers_pure false
    | cons d inputs ih =>
        obtain ⟨first, rest⟩ := List.forall_mem_cons.mp there
        exact first.bind (ih rest)
  value := answers

theorem Holds.ends_propagating {j k : Kind} {a : Source j.Carrier} {b : Source k.Carrier}
    {v : j.Carrier} {w : k.Carrier} {c : Eval γ} {r : Except EvalError γ}
    (ha : a.Holds m (some v)) (hb : b.Holds m (some w)) (answers : c.Answers m r) :
    (propagating [.of j a, .of k b] c).Ends m r :=
  Source.ends_propagating (List.forall_mem_cons.mpr
    ⟨ha.isMissing, List.forall_mem_singleton.mpr hb.isMissing⟩) answers

end Source

/-! ## Expressions -/

section Expressions

variable {ctx : TypingContext} {host : Host} {e l r : Expr} {t u w : ValueType}
  {c d x : Computer} {j k n : Kind} {a : j.Carrier} {b : k.Carrier}

/-- The expression is accepted with the type, and this is its computer. -/
structure Expr.Compiles (ctx : TypingContext) (host : Host) (e : Expr) (t : ValueType)
    (c : Computer) : Prop where
  typed : (e.infer ctx).2 = .ok t
  built : (e.infer ctx).1.build host = .ok c

/-- The expression is accepted as one of the kind, and at the moment it has a value; computing the
value ends with this. -/
def Expr.Ends (ctx : TypingContext) (host : Host) (m : Moment) (e : Expr) (k : Kind)
    (r : Except EvalError k.Carrier) : Prop :=
  ∃ (optional : Bool) (s : Source k.Carrier),
    e.Compiles ctx host (.of k optional) (.of k s) ∧ s.Ends m r

/-- The expression is accepted as one of the kind, and evaluates to the value at the moment. -/
def Expr.Yields (ctx : TypingContext) (host : Host) (m : Moment) (e : Expr) (k : Kind)
    (a : k.Carrier) : Prop :=
  e.Ends ctx host m k (.ok a)

theorem Expr.Yields.exists_source (h : e.Yields ctx host m k b) :
    ∃ (optional : Bool) (s : Source k.Carrier),
      e.Compiles ctx host (.of k optional) (.of k s) ∧ s.Holds m (some b) := by
  obtain ⟨optional, s, compiles, ends⟩ := h
  exact ⟨optional, s, compiles, Source.ends_ok_iff.mp ends⟩

/-- The value of the computer is the one that the expression evaluates to. -/
theorem Expr.Yields.value (h : e.Yields ctx host m k b) :
    ∃ t c, e.Compiles ctx host t c ∧ c.value.Answers m (.ok (.of k b)) := by
  obtain ⟨optional, s, compiles, holds⟩ := h.exists_source
  exact ⟨_, _, compiles, (Computer.Holds.of holds).value⟩

theorem Expr.yields_integer (v : Int64) (span : Span) :
    (Expr.constant { span } (.integer v)).Yields ctx host m .integer v :=
  ⟨false, _, ⟨rfl, rfl⟩, Source.ends_ok_iff.mpr (Source.constant_holds v)⟩

/-- An expression ends in one way. -/
theorem Expr.Ends.unique {r s : Except EvalError k.Carrier} (hr : e.Ends ctx host m k r)
    (hs : e.Ends ctx host m k s) : r = s := by
  obtain ⟨_, f, first, ends⟩ := hr
  obtain ⟨_, g, second, ends'⟩ := hs
  cases first.built.symm.trans second.built
  exact ends.value.unique ends'.value

theorem Expr.Yields.unique {b' : k.Carrier} (h : e.Yields ctx host m k b)
    (h' : e.Yields ctx host m k b') : b = b' := Except.ok.inj (Ends.unique h h')

/-! ## Operators -/

theorem Expr.Compiles.binary {op : BinaryOp} (hl : l.Compiles ctx host t c)
    (hr : r.Compiles ctx host u d) (ruled : binaryType op t u = .ok w)
    (built : Operator.binary op w.base c d = .ok x) (span : Span) :
    (Expr.binary { span } l op r).Compiles ctx host w x := by
  have inferred := Expr.infer_binary span hl.typed hr.typed ruled
  refine ⟨by rw [inferred], ?_⟩
  rw [inferred, Expr.build, hl.built, hr.built]
  exact built

theorem Expr.Compiles.unary {op : UnaryOp} (h : e.Compiles ctx host t c)
    (ruled : unaryType op t = .ok u) (built : Operator.unary op c = .ok x) (span : Span) :
    (Expr.unary { span } op e).Compiles ctx host u x := by
  have inferred : (Expr.unary { span } op e).infer ctx =
      (.unary { span, type := some u } op (e.infer ctx).1, .ok u) := by
    rw [Expr.infer]
    dsimp only
    rw [h.typed]
    change settle _ (mismatched span (unaryType op t)) = _
    rw [ruled]
    rfl
  refine ⟨by rw [inferred], ?_⟩
  rw [inferred, Expr.build, h.built]
  exact built

/-- Operands that evaluate are put together by an operator for their kinds. -/
theorem Expr.Yields.binary {op : BinaryOp} {r' : Except EvalError n.Carrier}
    (hl : l.Yields ctx host m j a) (hr : r.Yields ctx host m k b)
    (ruled : ∀ o p, binaryType op (.of j o) (.of k p) = .ok (.of n (o || p)))
    (built : ∀ (f : Source j.Carrier) (g : Source k.Carrier), f.Holds m (some a) →
      g.Holds m (some b) →
        ∃ s, Operator.binary op (some n) (.of j f) (.of k g) = .ok (.of n s) ∧ s.Ends m r')
    (span : Span) : (Expr.binary { span } l op r).Ends ctx host m n r' := by
  obtain ⟨o, f, compiles, holds⟩ := hl.exists_source
  obtain ⟨p, g, compiles', holds'⟩ := hr.exists_source
  obtain ⟨s, computed, ends⟩ := built f g holds holds'
  exact ⟨_, s, compiles.binary compiles' (ruled o p) computed span, ends⟩

theorem Expr.Yields.unary {op : UnaryOp} {r' : Except EvalError n.Carrier}
    (h : e.Yields ctx host m j a) (ruled : ∀ o, unaryType op (.of j o) = .ok (.of n o))
    (built : ∀ f : Source j.Carrier, f.Holds m (some a) →
      ∃ s, Operator.unary op (.of j f) = .ok (.of n s) ∧ s.Ends m r')
    (span : Span) : (Expr.unary { span } op e).Ends ctx host m n r' := by
  obtain ⟨o, f, compiles, holds⟩ := h.exists_source
  obtain ⟨s, computed, ends⟩ := built f holds
  exact ⟨_, s, compiles.unary (ruled o) computed span, ends⟩

end Expressions

/-! ## Binding one argument to each parameter -/

/-- One thing is bound to each of the names. -/
def Arguments.each {α : Type} (names : List String) (as : List α) : Arguments α :=
  ⟨List.zipWith (fun name a => (name, [a])) names as⟩

namespace Arguments

variable {α β ε : Type}

theorem map_each (f : α → β) (names : List String) (as : List α) :
    (each names as).map f = each names (as.map f) := by
  rw [each, Arguments.map, each, List.map_zipWith, List.zipWith_map_right]
  rfl

theorem names_each {names : List String} {as : List α} (length : names.length = as.length) :
    (each names as).slots.map (·.1) = names := by
  unfold each
  induction names generalizing as with
  | nil => rfl
  | cons name names ih =>
      cases as with
      | nil => cases length
      | cons a as => exact congrArg (name :: ·) (ih (Nat.succ.inj length))

/-- One thing is bound to each of the names, and what is left to the last one. -/
def eachThen (names : List String) (as : List α) (last : String) (rest : List α) : Arguments α :=
  ⟨(each names as).slots ++ if rest.isEmpty then [] else [(last, rest)]⟩

theorem map_eachThen (f : α → β) (names : List String) (as : List α) (last : String)
    (rest : List α) :
    (eachThen names as last rest).map f = eachThen names (as.map f) last (rest.map f) := by
  have first := congrArg slots (map_each f names as)
  rw [map] at first
  dsimp only at first
  rw [eachThen, map, eachThen, List.map_append, first, List.isEmpty_map]
  cases rest <;> rfl

theorem values_eachThen {names : List String} {as : List α} (length : names.length = as.length)
    (last : String) (rest : List α) : (eachThen names as last rest).values = as ++ rest := by
  have first : (each names as).slots.flatMap (·.2) = as := by
    unfold each
    induction names generalizing as with
    | nil => exact (List.length_eq_zero_iff.mp length.symm).symm
    | cons name names ih =>
        cases as with
        | nil => cases length
        | cons a as => exact congrArg (a :: ·) (ih (Nat.succ.inj length))
  rw [values, eachThen, List.flatMap_append, first]
  cases rest <;> simp

end Arguments

section Binding

variable {given left : List Param} {types : List ValueType} {bound : Arguments Binding}

/-- Each parameter with the number of its argument. -/
def inTurn (given : List Param) (k : Nat) : List Assigned :=
  List.zipWith (fun p i => (p, [i])) given (List.range' k given.length)

theorem inTurn_cons (p : Param) (given : List Param) (k : Nat) :
    inTurn (p :: given) k = (p, [k]) :: inTurn given (k + 1) := by
  rw [inTurn, List.length_cons, List.range'_succ]
  rfl

theorem assignPositional_nil (params : List Param) :
    assignPositional params [] = some (params.map (·, [])) := by
  cases params with
  | nil => rfl
  | cons p params =>
      rw [assignPositional]
      split <;> rfl

theorem assignPositional_fixed (single : ∀ p ∈ given, p.isVariadic = false)
    (left : List Param) (k : Nat) :
    assignPositional (given ++ left) (List.range' k given.length) =
      some (inTurn given k ++ left.map (·, [])) := by
  induction given generalizing k with
  | nil => exact assignPositional_nil left
  | cons p given ih =>
      obtain ⟨first, rest⟩ := List.forall_mem_cons.mp single
      rw [List.cons_append, List.length_cons, List.range'_succ, assignPositional, first,
        if_neg Bool.false_ne_true, ih rest, inTurn_cons]
      rfl

/-- Parameters that accept their arguments are bound to them. -/
theorem bindParams_fixed {front : List ValueType} (back : List ValueType)
    (distinct : (bound.slots.map (·.1) ++ given.map Param.name).Nodup)
    (accepts : List.Forall₂ (fun p t => p.matcher.accepts t = true) given types) :
    (inTurn given front.length).foldlM (bindParam (front ++ (types ++ back))) bound =
      .ok ⟨bound.slots ++ (Arguments.each (given.map Param.name)
        ((List.range' front.length types.length).map Binding.argument)).slots⟩ := by
  induction accepts generalizing front bound with
  | nil => exact congrArg (fun slots => Except.ok (Arguments.mk slots)) (List.append_nil _).symm
  | @cons p t given types first _ ih =>
      have fresh : p.name ∉ bound.slots.map (·.1) := fun taken =>
        List.disjoint_of_nodup_append distinct taken (.head _)
      have slots := slots_pushAll fresh [.argument front.length]
      have binds : bindParam (front ++ (t :: types ++ back)) bound (p, [front.length]) =
          .ok (bound.pushAll p.name [.argument front.length]) := by
        refine bindParam_ok_iff.mpr ⟨⟨fun _ => List.cons_ne_nil _ _, ?_⟩, rfl⟩
        refine List.forall_mem_singleton.mpr ?_
        simpa using first
      have rest := @ih (bound.pushAll p.name [.argument front.length]) (front ++ [t])
        (by rw [slots]; simpa [slot?] using distinct)
      rw [slots, List.length_append, List.append_assoc, List.append_assoc] at rest
      rw [inTurn_cons, List.foldlM_cons, binds, Except.ok_bind, List.length_cons,
        List.range'_succ]
      exact rest

/-- Nothing is bound to optional parameters without an argument. -/
theorem bindParams_left (optional : ∀ p ∈ left, p.arity = .optional none) :
    (left.map (·, [])).foldlM (bindParam types) bound = .ok bound := by
  induction left with
  | nil => rfl
  | cons p left ih =>
      obtain ⟨first, rest⟩ := List.forall_mem_cons.mp optional
      have skips : bindParam types bound (p, []) = .ok bound := by
        rw [bindParam, first]
      rw [List.map_cons, List.foldlM_cons, skips, Except.ok_bind, ih rest]

/-- Positional arguments are bound to the parameters in turn. -/
theorem bindArguments_fixed (single : ∀ p ∈ given, p.isVariadic = false)
    (optional : ∀ p ∈ left, p.arity = .optional none)
    (distinct : (given.map Param.name).Nodup)
    (accepts : List.Forall₂ (fun p t => p.matcher.accepts t = true) given types) :
    bindArguments (given ++ left) (types.map (none, ·)) =
      .ok (Arguments.each (given.map Param.name)
        ((List.range types.length).map Binding.argument)) := by
  have binds := @bindParams_fixed given types .empty [] [] distinct accepts
  rw [List.length_nil, List.nil_append, List.append_nil] at binds
  rw [bindArguments_positional, List.range_eq_range', ← accepts.length_eq,
    assignPositional_fixed single, accepts.length_eq]
  dsimp only
  rw [List.foldlM_append, binds, Except.ok_bind, bindParams_left optional]
  rfl

theorem assignPositional_rest (single : ∀ p ∈ given, p.isVariadic = false) {last : Param}
    (variadic : last.isVariadic = true) (k n : Nat) :
    assignPositional (given ++ [last]) (List.range' k (given.length + n)) =
      some (inTurn given k ++ [(last, List.range' (k + given.length) n)]) := by
  induction given generalizing k with
  | nil =>
      rw [List.nil_append, List.length_nil, Nat.zero_add, assignPositional_variadic variadic]
      rfl
  | cons p given ih =>
      obtain ⟨first, rest⟩ := List.forall_mem_cons.mp single
      have count : (p :: given).length + n = given.length + n + 1 := by
        rw [List.length_cons]
        omega
      have start : k + (p :: given).length = k + 1 + given.length := by
        rw [List.length_cons]
        omega
      rw [List.cons_append, count, List.range'_succ, assignPositional, first,
        if_neg Bool.false_ne_true, ih rest, inTurn_cons, start]
      rfl

/-- A variadic parameter takes the last arguments. -/
theorem bindParam_rest {last : Param} (variadic : last.arity = .variadic)
    (fresh : last.name ∉ bound.slots.map (·.1)) {rest : List ValueType}
    (accepts : ∀ t ∈ rest, last.matcher.accepts t = true) :
    bindParam (types ++ rest) bound (last, List.range' types.length rest.length) =
      .ok ⟨bound.slots ++ if ((List.range' types.length rest.length).map Binding.argument).isEmpty
        then [] else [(last.name, (List.range' types.length rest.length).map .argument)]⟩ := by
  have takes : taken last (List.range' types.length rest.length) =
      (List.range' types.length rest.length).map .argument := by
    cases rest with
    | nil =>
        rw [List.length_nil, List.range'_zero, taken, variadic]
        rfl
    | cons t rest => rfl
  refine bindParam_ok_iff.mpr ⟨⟨fun required => ?_, fun i hi => ?_⟩, ?_⟩
  · rw [variadic] at required
    cases required
  · obtain ⟨low, high⟩ := List.mem_range'_1.mp hi
    rw [List.getD_append_right _ _ _ _ low, List.getD_eq_getElem _ _ (by omega)]
    exact accepts _ (List.getElem_mem _)
  · refine congrArg Arguments.mk ((slots_pushAll fresh _).trans ?_).symm
    rw [takes, slot?]
    split <;> rfl

/-- The last parameter takes the positional arguments that are left. -/
theorem bindArguments_rest (single : ∀ p ∈ given, p.isVariadic = false) {last : Param}
    (variadic : last.arity = .variadic)
    (distinct : (given.map Param.name ++ [last.name]).Nodup)
    (accepts : List.Forall₂ (fun p t => p.matcher.accepts t = true) given types)
    {rest : List ValueType} (acceptsRest : ∀ t ∈ rest, last.matcher.accepts t = true) :
    bindArguments (given ++ [last]) ((types ++ rest).map (none, ·)) =
      .ok (Arguments.eachThen (given.map Param.name)
        ((List.range types.length).map Binding.argument) last.name
        ((List.range' types.length rest.length).map Binding.argument)) := by
  have binds := @bindParams_fixed given types .empty [] rest distinct.of_append_left accepts
  have names : (Arguments.each (given.map Param.name)
      ((List.range types.length).map Binding.argument)).slots.map (·.1) = given.map Param.name :=
    Arguments.names_each (by simp [accepts.length_eq])
  have fresh : last.name ∉ (Arguments.each (given.map Param.name)
      ((List.range types.length).map Binding.argument)).slots.map (·.1) := by
    rw [names]
    exact fun taken => List.disjoint_of_nodup_append distinct taken (.head _)
  have more := @bindParam_rest types _ last variadic fresh rest acceptsRest
  have indices : List.range (types ++ rest).length =
      List.range' 0 (given.length + rest.length) := by
    rw [List.range_eq_range', List.length_append, accepts.length_eq]
  rw [bindArguments_positional, indices,
    assignPositional_rest single (by rw [Param.isVariadic, variadic]), Nat.zero_add,
    accepts.length_eq]
  dsimp only
  rw [List.length_nil, List.nil_append, ← List.range_eq_range'] at binds
  rw [List.foldlM_append, binds, Except.ok_bind]
  change bindParam _ (.each _ _) _ >>= _ = _
  rw [more]
  rfl

end Binding

/-! ## Calls -/

section Call

variable {ctx : TypingContext} {host : Host} {name : String} {f : Function}
  {given left : List Param} {rule : TypeRule} {build : Builder} {args : List Expr}
  {types : List ValueType} {cs : List Computer} {t : ValueType} {c : Computer}

/-- The expressions have these types, and these are their computers. -/
structure Expr.CompileAll (ctx : TypingContext) (host : Host) (args : List Expr)
    (types : List ValueType) (cs : List Computer) : Prop where
  typed : args.map (fun e => (e.infer ctx).2) = types.map .ok
  built : args.mapM (fun e => (e.infer ctx).1.build host) = .ok cs

theorem Expr.CompileAll.nil : CompileAll ctx host [] [] [] := ⟨rfl, rfl⟩

theorem Expr.CompileAll.cons {e : Expr} (first : e.Compiles ctx host t c)
    (rest : CompileAll ctx host args types cs) :
    CompileAll ctx host (e :: args) (t :: types) (c :: cs) where
  typed := by rw [List.map_cons, first.typed, rest.typed, List.map_cons]
  built := by
    rw [List.mapM_cons, first.built, rest.built]
    rfl

theorem Expr.CompileAll.append {args' : List Expr} {types' : List ValueType}
    {cs' : List Computer} (first : CompileAll ctx host args types cs)
    (rest : CompileAll ctx host args' types' cs') :
    CompileAll ctx host (args ++ args') (types ++ types') (cs ++ cs') where
  typed := by rw [List.map_append, first.typed, rest.typed, List.map_append]
  built := by
    rw [List.mapM_append, first.built, rest.built]
    rfl

theorem Expr.CompileAll.length_eq (all : CompileAll ctx host args types cs) :
    types.length = cs.length := by
  have typed := congrArg List.length all.typed
  rw [List.length_map, List.length_map] at typed
  rw [← typed, (Except.mapM_forall₂ all.built).length_eq]

/-- What stands at positions in turn. -/
theorem map_positions {α : Type} {g : Binding → α} {d : α} (front as back : List α)
    (at_ : ∀ i, g (.argument i) = (front ++ as ++ back).getD i d) :
    ((List.range' front.length as.length).map Binding.argument).map g = as := by
  refine List.ext_getElem (by simp) fun i _ h => ?_
  rw [List.getElem_map, List.getElem_map, List.getElem_range', at_, one_mul, List.append_assoc,
    List.getD_append_right _ _ _ _ (by omega), Nat.add_sub_cancel_left,
    List.getD_append _ _ _ _ h, List.getD_eq_getElem]

/-- The computer of what a parameter is bound to, for arguments with the given computers. -/
def Evaluation.boundComputer (cs : List Computer) : Binding → Computer
  | .argument i => cs.getD i .missing
  | .default v => .constant v

/-- A call is built from the computers of what its parameters are bound to. -/
theorem Expr.compiles_bound {o : Overload} {bound : Arguments Binding}
    (found : ctx.functions.get? name = some f) (only : f.overloads = [o])
    (all : CompileAll ctx host args types cs)
    (binds : bindArguments o.params (types.map (none, ·)) = .ok bound)
    (ruled : o.typeRule (bound.map (boundType (types.map (none, ·)))) = .ok t)
    (built : o.build (bound.map (Evaluation.boundComputer cs)) t = .ok c) (span : Span) :
    (callOf span name args).Compiles ctx host t c := by
  have inferred : (callOf span name args).infer ctx = _ :=
    Expr.infer_callOf found only all.typed (tryOverload_ok_iff.mpr ⟨binds, ruled⟩)
  have computers : ∀ b ∈ bound.values, Evaluation.computerFor name
      ((args.map fun e => (e.infer ctx).1).map (·.build host)) b =
        .ok (Evaluation.boundComputer cs b) := by
    intro b hb
    obtain ⟨v, rfl, _⟩ | ⟨i, s, rfl, here⟩ := bindArguments_lt binds b hb
    · rfl
    · have bounded : i < cs.length := by
        have := (List.getElem?_eq_some_iff.mp here).1
        rw [List.length_map, List.length_map] at this
        rwa [← all.length_eq]
      have each := Except.mapM_forall₂ all.built
      have atPosition : ((args.map fun e => (e.infer ctx).1).map (·.build host))[i]? =
          some (.ok cs[i]) := by
        have inArgs : i < args.length := by rwa [each.length_eq]
        rw [List.getElem?_map, List.getElem?_map, List.getElem?_eq_getElem inArgs]
        exact congrArg some (each.get inArgs bounded)
      rw [Evaluation.computerFor, atPosition, Evaluation.boundComputer,
        List.getD_eq_getElem _ _ bounded]
  refine ⟨by rw [inferred], ?_⟩
  rw [inferred, Expr.build_boundCall only, Arguments.mapExcept_ok computers]
  exact built

theorem boundType_eq (types : List ValueType) (i : Nat) :
    boundType (types.map (none, ·)) (.argument i) = types.getD i .missing := by
  rw [boundType, List.getElem?_map, Option.map_map, List.getD_eq_getElem?_getD]
  cases types[i]? <;> rfl

/-- A call with an argument for each of the first parameters is built from their computers. -/
theorem Expr.compiles_callOf (found : ctx.functions.get? name = some f)
    (only : f.overloads = [⟨given ++ left, rule, build⟩])
    (single : ∀ p ∈ given, p.isVariadic = false)
    (optional : ∀ p ∈ left, p.arity = .optional none)
    (distinct : (given.map Param.name).Nodup) (all : CompileAll ctx host args types cs)
    (accepts : List.Forall₂ (fun p t => p.matcher.accepts t = true) given types)
    (ruled : rule (.each (given.map Param.name) types) = .ok t)
    (built : build (.each (given.map Param.name) cs) t = .ok c) (span : Span) :
    (callOf span name args).Compiles ctx host t c := by
  have seen {α : Type} {g : Binding → α} {as : List α} {d : α} (count : types.length = as.length)
      (at_ : ∀ i, g (.argument i) = as.getD i d) :
      (Arguments.each (given.map Param.name)
        ((List.range types.length).map Binding.argument)).map g =
          .each (given.map Param.name) as := by
    rw [Arguments.map_each, List.range_eq_range', count]
    exact congrArg _ (map_positions [] as [] (by simpa using at_))
  refine compiles_bound found only all (bindArguments_fixed single optional distinct accepts) ?_ ?_
    span
  · rw [seen rfl (boundType_eq types)]
    exact ruled
  · rw [seen all.length_eq fun _ => rfl]
    exact built

/-- A call whose last parameter takes all arguments that are left is built from their computers. -/
theorem Expr.compiles_callRest {last : Param} {rest : List Expr} {moreTypes : List ValueType}
    {moreCs : List Computer} (found : ctx.functions.get? name = some f)
    (only : f.overloads = [⟨given ++ [last], rule, build⟩])
    (single : ∀ p ∈ given, p.isVariadic = false) (variadic : last.arity = .variadic)
    (distinct : (given.map Param.name ++ [last.name]).Nodup)
    (all : CompileAll ctx host args types cs) (more : CompileAll ctx host rest moreTypes moreCs)
    (accepts : List.Forall₂ (fun p t => p.matcher.accepts t = true) given types)
    (acceptsRest : ∀ t ∈ moreTypes, last.matcher.accepts t = true)
    (ruled : rule (.eachThen (given.map Param.name) types last.name moreTypes) = .ok t)
    (built : build (.eachThen (given.map Param.name) cs last.name moreCs) t = .ok c) (span : Span) :
    (callOf span name (args ++ rest)).Compiles ctx host t c := by
  have seen {α : Type} {g : Binding → α} {as bs : List α} {d : α}
      (count : types.length = as.length) (countRest : moreTypes.length = bs.length)
      (at_ : ∀ i, g (.argument i) = (as ++ bs).getD i d) :
      (Arguments.eachThen (given.map Param.name)
        ((List.range types.length).map Binding.argument) last.name
        ((List.range' types.length moreTypes.length).map Binding.argument)).map g =
          .eachThen (given.map Param.name) as last.name bs := by
    have first : ((List.range' 0 as.length).map Binding.argument).map g = as :=
      map_positions [] as bs (by simpa using at_)
    have second : ((List.range' as.length bs.length).map Binding.argument).map g = bs :=
      map_positions as bs [] (by simpa using at_)
    rw [Arguments.map_eachThen, List.range_eq_range', count, countRest, first, second]
  refine compiles_bound found only (all.append more)
    (bindArguments_rest single variadic distinct accepts acceptsRest) ?_ ?_ span
  · rw [seen rfl rfl (boundType_eq _)]
    exact ruled
  · rw [seen all.length_eq more.length_eq fun _ => rfl]
    exact built

/-- Two arguments that evaluate are put together by a function of two parameters for their kinds. -/
theorem Expr.Yields.call {p q : Param} {j k n : Kind} {a : j.Carrier} {b : k.Carrier} {m : Moment}
    {x y : Expr} {r : Except EvalError n.Carrier} (hx : x.Yields ctx host m j a)
    (hy : y.Yields ctx host m k b) (found : ctx.functions.get? name = some f)
    (only : f.overloads = [⟨[p, q], rule, build⟩])
    (single : p.isVariadic = false ∧ q.isVariadic = false ∧ p.name ≠ q.name)
    (accepts : ∀ o i, p.matcher.accepts (.of j o) = true ∧ q.matcher.accepts (.of k i) = true)
    (ruled : ∀ o i, rule (.each [p.name, q.name] [.of j o, .of k i]) = .ok (.of n (o || i)))
    (built : ∀ (g : Source j.Carrier) (h : Source k.Carrier), g.Holds m (some a) →
      h.Holds m (some b) → ∃ s : Source n.Carrier, s.Ends m r ∧
        ∀ o, build (.each [p.name, q.name] [.of j g, .of k h]) (.of n o) = .ok (.of n s))
    (span : Span) : (Expr.callOf span name [x, y]).Ends ctx host m n r := by
  obtain ⟨o, g, compiles, holds⟩ := hx.exists_source
  obtain ⟨i, h, compiles', holds'⟩ := hy.exists_source
  obtain ⟨s, ends, builds⟩ := built g h holds holds'
  have each : ∀ param ∈ [p, q], param.isVariadic = false :=
    List.forall_mem_cons.mpr ⟨single.1, List.forall_mem_singleton.mpr single.2.1⟩
  have distinct : ([p, q].map Param.name).Nodup := by simpa using single.2.2
  have noneLeft : ∀ param ∈ ([] : List Param), param.arity = .optional none :=
    fun _ h => absurd h List.not_mem_nil
  exact ⟨o || i, s, Expr.compiles_callOf found only each noneLeft distinct
    (.cons compiles (.cons compiles' .nil))
    (.cons (accepts o i).1 (.cons (accepts o i).2 .nil)) (ruled o i) (builds _) span, ends⟩

end Call

end Rowwise
