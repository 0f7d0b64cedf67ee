import Rowwise.Proofs.Evaluation.Soundness
import Rowwise.Proofs.Typing.Assignment
import Rowwise.Proofs.Typing.Reports

/-!
# Calls with positional arguments

A function with one overload that takes any number of arguments is typed by the rule of the
overload and built by its builder.  What stands in between is the same for all such functions:
positional arguments are bound by their positions (`bindArguments_variadic`), and bound positions
are replaced by the types of the arguments for the rule (`boundType_positional`) and by their
computers for the builder (`computerFor_positional`).  So a call that passes all arguments to a
variadic parameter has the type that the rule gives for the list of their types
(`Expr.infer_variadic`) and the computer that is built from the list of their computers
(`Expr.build_infer_variadic`).  The same holds behind a required parameter.
-/

namespace Rowwise

open Typing

/-! ## Calls with positional arguments -/

/-- Arguments without names. -/
def Args.positional : List Expr → Args
  | [] => .nil
  | e :: es => .cons none e (positional es)

/-- A call of a function with positional arguments, as it is parsed. -/
def Expr.callOf (span : Span) (name : String) (args : List Expr) : Expr :=
  .call { span } .function name (.positional args) none

namespace Args

theorem infer_positional (ctx : TypingContext) (es : List Expr) :
    (positional es).infer ctx =
      (positional (es.map fun e => (e.infer ctx).1), es.map fun e => (e.infer ctx).2) := by
  induction es with
  | nil => rfl
  | cons e es ih => rw [positional, infer, ih]; rfl

theorem names_positional (es : List Expr) : (positional es).names = es.map fun _ => none := by
  induction es with
  | nil => rfl
  | cons e es ih => rw [positional, names_cons, ih]; rfl

theorem build_positional (host : Host) (es : List Expr) :
    (positional es).build host = es.map (·.build host) := by
  induction es with
  | nil => rfl
  | cons e es ih => rw [positional, build, ih]; rfl

end Args

theorem Expr.untyped_callOf {name : String} {args : List Expr} (untyped : ∀ e ∈ args, e.Untyped)
    (span : Span) : (callOf span name args).Untyped := by
  refine ⟨rfl, rfl, ?_⟩
  induction args with
  | nil => exact trivial
  | cons e args ih =>
      obtain ⟨first, rest⟩ := List.forall_mem_cons.mp untyped
      exact ⟨first, ih rest⟩

theorem Typing.tryOverload_ok_iff {o : Overload} {args : List ArgumentType}
    {bound : Arguments Binding} {t : ValueType} :
    tryOverload o args = .ok (bound, t) ↔
      bindArguments o.params args = .ok bound ∧
        o.typeRule (bound.map (boundType args)) = .ok t := by
  refine ⟨tryOverload_ok, fun ⟨binds, rule⟩ => ?_⟩
  unfold tryOverload
  rw [binds]
  change Except.map (bound, ·) (o.typeRule (bound.map (boundType args))) = _
  rw [rule]
  rfl

theorem zip_positional {α : Type} {types : List ValueType} {as : List α}
    (length : as.length = types.length) :
    (as.map fun _ => (none : Option String)).zip types = types.map (none, ·) := by
  induction types generalizing as with
  | nil => rw [List.zip_nil_right, List.map_nil]
  | cons t types ih =>
      cases as with
      | nil => cases length
      | cons a as =>
          rw [List.map_cons, List.zip_cons_cons, List.map_cons, ih (Nat.succ.inj length)]

section Call

variable {ctx : TypingContext} {name : String} {f : Function} {o : Overload} {args : List Expr}
  {span : Span} {t : ValueType}

/-- The tree of a call that is bound to the only overload of a function. -/
def Expr.boundCall (span : Span) (name : String) (args : List Expr) (f : Function)
    (bound : Arguments Binding) (t : ValueType) : Expr :=
  .call { span := span, type := some t } .function name (.positional args)
    (some (.function f 0 bound))

variable (found : ctx.functions.get? name = some f) (only : f.overloads = [o])
include found only

/-- A call is bound if the overload applies to the types of the arguments. -/
theorem Expr.infer_callOf {types : List ValueType} {bound : Arguments Binding}
    (typed : args.map (fun e => (e.infer ctx).2) = types.map .ok)
    (applies : tryOverload o (types.map (none, ·)) = .ok (bound, t)) :
    (callOf span name args).infer ctx =
      (boundCall span name (args.map fun e => (e.infer ctx).1) f bound t, .ok t) := by
  have length : args.length = types.length := by simpa using congrArg List.length typed
  have zipped : ((args.map fun e => (e.infer ctx).1).map fun _ => (none : Option String)).zip
      types = types.map (none, ·) := zip_positional (by rw [List.length_map, length])
  have chosen : chooseOverload (types.map (none, ·)) 0 f.overloads = .ok (0, bound, t) := by
    rw [only, chooseOverload, applies]
  have all := allTypes_ok_self types
  have bound' : inferCall ctx name span ((args.map fun e => (e.infer ctx).1).map fun _ => none)
      (types.map .ok) none = (some (.function f 0 bound), .ok t) := by
    unfold inferCall
    simp only [found, all, zipped, chosen]
    rfl
  rw [callOf, Expr.infer_functionCall, Args.infer_positional, Args.names_positional, typed]
  dsimp only
  rw [bound']
  rfl

/-- A call is accepted only if it does. -/
theorem Expr.infer_callOf_ok (accepted : ((callOf span name args).infer ctx).2 = .ok t) :
    ∃ (types : List ValueType) (bound : Arguments Binding),
      args.map (fun e => (e.infer ctx).2) = types.map .ok ∧
      tryOverload o (types.map (none, ·)) = .ok (bound, t) := by
  rw [callOf] at accepted
  obtain ⟨g, types, i, o', bound, u, found', typed, chosen, applies, binds⟩ :=
    infer_functionCall_ok accepted
  rw [Expr.infer_functionCall, binds] at accepted
  obtain ⟨result, _⟩ := settle_ok accepted
  cases result
  rw [Args.infer_positional] at typed
  rw [Args.infer_positional, Args.names_positional] at applies
  cases found.symm.trans found'
  rw [only] at chosen
  obtain rfl : o' = o := by
    cases i with
    | zero => exact (Option.some.inj chosen).symm
    | succ i => cases chosen
  have length : args.length = types.length := by simpa using congrArg List.length typed
  rw [zip_positional (by rw [List.length_map, length])] at applies
  exact ⟨types, bound, typed, applies⟩

end Call

/-! ## What positional arguments are bound to -/

section Binding

variable {types : List ValueType} {s : ValueType} {name first : String} {m : Matcher}
  {bound : Arguments Binding}

/-- Without names, all positions are assigned from left to right. -/
theorem bindArguments_positional (params : List Param) (types : List ValueType) :
    bindArguments params (types.map (none, ·)) =
      match assignPositional params (List.range types.length) with
      | some assigned => assigned.foldlM (bindParam types) .empty
      | none => .error (.tooMany params.length) := by
  have unnamed : ∀ x ∈ (types.map (Prod.mk (none : Option String))).zipIdx, x.1.1 = none := by
    intro x hx
    obtain ⟨t, _, same⟩ := List.mem_map.mp (List.fst_mem_of_mem_zipIdx hx)
    rw [← same]
  have positional : ((types.map (Prod.mk (none : Option String))).zipIdx.filter
      fun x => x.1.1.isNone).map (·.2) = List.range types.length := by
    rw [List.filter_eq_self.mpr fun x hx => by rw [unnamed x hx]; rfl]
    exact (List.zipIdx_map_snd 0 _).trans (by rw [List.length_map, List.range_eq_range'])
  have named : (types.map (Prod.mk (none : Option String))).zipIdx.filterMap
      (fun x => x.1.1.map (·, x.2)) = [] :=
    List.filterMap_eq_nil_iff.mpr fun x hx => by rw [unnamed x hx]; rfl
  have seconds : (types.map (Prod.mk (none : Option String))).map (·.2) = types := by
    rw [List.map_map]
    exact List.map_id types
  unfold bindArguments
  dsimp only
  rw [positional, named, seconds]
  cases assignPositional params (List.range types.length) <;> rfl

theorem taken_of_ne_nil {p : Param} {indices : List Nat} (given : indices ≠ []) :
    taken p indices = indices.map .argument := by
  cases indices with
  | nil => exact absurd rfl given
  | cons => rfl

theorem bindParam_required (accepts : m.accepts s = true) :
    bindParam (s :: types) .empty (.required first m, [0]) = .ok ⟨[(first, [.argument 0])]⟩ :=
  bindParam_ok_iff.mpr
    ⟨⟨fun _ => List.cons_ne_nil 0 [], List.forall_mem_singleton.mpr accepts⟩, rfl⟩

/-- A variadic parameter that accepts anything takes what is left. -/
theorem bindParam_variadic {indices : List Nat} (given : indices ≠ []) :
    bindParam types bound (.variadic name .anything, indices) =
      .ok (bound.pushAll name (indices.map .argument)) :=
  bindParam_ok_iff.mpr ⟨⟨nofun, fun _ _ => rfl⟩, by rw [taken_of_ne_nil given]; rfl⟩

theorem pushAll_empty {bindings : List Binding} (given : bindings ≠ []) :
    Arguments.empty.pushAll name bindings = ⟨[(name, bindings)]⟩ := by
  have fresh : (Param.variadic name .anything).name ∉
      (Arguments.empty : Arguments Binding).slots.map (·.1) := List.not_mem_nil
  have slots := slots_pushAll fresh bindings
  rw [slot?, if_neg (by simpa using given)] at slots
  exact congrArg Arguments.mk slots

theorem pushAll_singleton (distinct : first ≠ name) {bindings : List Binding}
    (given : bindings ≠ []) (b : Binding) :
    (Arguments.mk [(first, [b])]).pushAll name bindings = ⟨[(first, [b]), (name, bindings)]⟩ := by
  have fresh : (Param.variadic name .anything).name ∉
      (Arguments.mk [(first, [b])]).slots.map (·.1) := by
    simpa [Param.variadic] using Ne.symm distinct
  have slots := slots_pushAll fresh bindings
  rw [slot?, if_neg (by simpa using given)] at slots
  exact congrArg Arguments.mk slots

/-- All arguments go to a variadic parameter that stands alone. -/
theorem bindArguments_variadic (name : String) (given : types ≠ []) :
    bindArguments [.variadic name .anything] (types.map (none, ·)) =
      .ok ⟨[(name, (List.range types.length).map .argument)]⟩ := by
  have indices : List.range types.length ≠ [] := by simpa using given
  rw [bindArguments_positional, assignPositional_variadic rfl]
  dsimp only
  rw [List.map_nil, List.foldlM_cons, bindParam_variadic indices, Except.ok_bind,
    pushAll_empty (by simpa using given)]
  rfl

/-- The first argument goes to the required parameter in front of a variadic one. -/
theorem bindArguments_required_variadic (distinct : first ≠ name) (given : types ≠ []) :
    bindArguments [.required first m, .variadic name .anything] ((s :: types).map (none, ·)) =
        .ok bound ↔
      m.accepts s = true ∧
        bound = ⟨[(first, [.argument 0]), (name, (List.range' 1 types.length).map .argument)]⟩ := by
  have indices : List.range' 1 types.length ≠ [] := by simpa using given
  have assigned : assignPositional [.required first m, .variadic name .anything]
      (List.range (s :: types).length) = some
        [(.required first m, [0]), (.variadic name .anything, List.range' 1 types.length)] := by
    rw [List.range_eq_range', List.length_cons, List.range'_succ]
    rfl
  have both (accepts : m.accepts s = true) :
      [(Param.required first m, [0]), (.variadic name .anything, List.range' 1 types.length)].foldlM
        (bindParam (s :: types)) .empty =
      .ok ⟨[(first, [.argument 0]), (name, (List.range' 1 types.length).map .argument)]⟩ := by
    rw [List.foldlM_cons, bindParam_required accepts, Except.ok_bind, List.foldlM_cons,
      bindParam_variadic indices, Except.ok_bind,
      pushAll_singleton distinct (by simpa using given)]
    rfl
  rw [bindArguments_positional, assigned]
  dsimp only
  constructor
  · intro h
    obtain ⟨after, front, _⟩ := Except.bind_ok h
    have accepts : m.accepts s = true := (bindParam_ok_iff.mp front).1.2 0 (.head _)
    rw [both accepts] at h
    cases h
    exact ⟨accepts, rfl⟩
  · rintro ⟨accepts, rfl⟩
    exact both accepts

end Binding

/-! ## Types and computers of what is bound -/

section Bound

variable {name : String}

/-- The types of arguments that follow others. -/
theorem boundType_positional (front types : List ValueType) :
    ((List.range' front.length types.length).map Binding.argument).map
        (boundType ((front ++ types).map (none, ·))) = types := by
  induction types generalizing front with
  | nil => rfl
  | cons t types ih =>
      have head : boundType ((front ++ t :: types).map (none, ·)) (.argument front.length) = t := by
        simp [boundType]
      have rest := ih (front ++ [t])
      rw [List.length_append, List.append_assoc] at rest
      rw [List.length_cons, List.range'_succ, List.map_cons, List.map_cons, head]
      exact congrArg (t :: ·) rest

namespace Evaluation

/-- The computer for what a parameter is bound to. -/
def computerFor (name : String) (args : List (Except EvalError Computer)) :
    Binding → Except EvalError Computer
  | .argument i =>
    match args[i]? with
    | some c => c
    | none => .error (.fault (.noSuchArgument i name))
  | .default v => .ok (.constant v)

/-- The computers of arguments that follow others. -/
theorem computerFor_positional (name : String) (host : Host)
    (front : List (Except EvalError Computer))
    (args : List Expr) :
    ((List.range' front.length args.length).map Binding.argument).mapM
        (computerFor name (front ++ args.map (·.build host))) = args.mapM (·.build host) := by
  induction args generalizing front with
  | nil => rfl
  | cons e args ih =>
      have head : computerFor name (front ++ e.build host :: args.map (·.build host))
          (.argument front.length) = e.build host := by
        simp [computerFor]
      have rest := ih (front ++ [e.build host])
      rw [List.length_append, List.append_assoc] at rest
      rw [List.length_cons, List.range'_succ, List.map_cons, List.map_cons, List.mapM_cons,
        List.mapM_cons, head]
      exact congrArg (e.build host >>= ·)
        (funext fun d => congrArg (· >>= fun ds => pure (d :: ds)) rest)

end Evaluation

end Bound

section Build

variable {host : Host} {name : String} {f : Function} {o : Overload} {span : Span} {t : ValueType}
  (only : f.overloads = [o])
include only

theorem Expr.build_boundCall (args : List Expr) (bound : Arguments Binding) :
    (boundCall span name args f bound t).build host = (do
      let bound ← bound.mapExcept (Evaluation.computerFor name (args.map (·.build host)))
      o.build bound t) := by
  rw [boundCall, Expr.build, Args.build_positional]
  unfold Evaluation.buildCall
  simp only [only]
  rfl

/-- The computer of a call that passes all arguments to a variadic parameter. -/
theorem Expr.build_variadic (parameter : String) (args : List Expr) :
    (boundCall span name args f ⟨[(parameter, (List.range args.length).map .argument)]⟩ t).build
        host = (do
      let cs ← args.mapM (·.build host)
      o.build ⟨[(parameter, cs)]⟩ t) := by
  rw [build_boundCall only]
  have each := Evaluation.computerFor_positional name host [] args
  rw [List.length_nil, ← List.range_eq_range', List.nil_append] at each
  unfold Arguments.mapExcept
  rw [List.mapM_cons, List.mapM_nil]
  dsimp only
  rw [each]
  cases args.mapM (·.build host) <;> rfl

/-- The computer of a call that passes all arguments but the first to a variadic parameter. -/
theorem Expr.build_required_variadic (first parameter : String) (arg : Expr) (args : List Expr) :
    (boundCall span name (arg :: args) f ⟨[(first, [.argument 0]),
        (parameter, (List.range' 1 args.length).map .argument)]⟩ t).build host = (do
      let c ← arg.build host
      let cs ← args.mapM (·.build host)
      o.build ⟨[(first, [c]), (parameter, cs)]⟩ t) := by
  rw [build_boundCall only]
  have each := Evaluation.computerFor_positional name host [arg.build host] args
  rw [List.length_singleton, List.singleton_append] at each
  unfold Arguments.mapExcept
  have one : [Binding.argument 0].mapM (Evaluation.computerFor name
      ((arg :: args).map (·.build host))) = (do let c ← arg.build host; pure [c]) := by
    rw [List.mapM_cons, List.mapM_nil]
    rfl
  rw [List.mapM_cons, List.mapM_cons, List.mapM_nil]
  dsimp only
  rw [one, List.map_cons, each]
  cases arg.build host with
  | error e => rfl
  | ok c => cases args.mapM (·.build host) <;> rfl

end Build

/-! ## Calls of functions with one overload -/

theorem types_ne_nil {ctx : TypingContext} {args : List Expr} {types : List ValueType}
    (given : args ≠ []) (typed : args.map (fun e => (e.infer ctx).2) = types.map .ok) :
    types ≠ [] := by
  rintro rfl
  exact given (List.map_eq_nil_iff.mp typed)

theorem map_boundType_variadic (parameter : String) (types : List ValueType) :
    (Arguments.mk [(parameter, (List.range types.length).map Binding.argument)]).map
        (boundType (types.map (none, ·))) = ⟨[(parameter, types)]⟩ := by
  have each := boundType_positional [] types
  rw [List.length_nil, ← List.range_eq_range', List.nil_append] at each
  exact congrArg (fun as => Arguments.mk [(parameter, as)]) each

theorem map_boundType_required_variadic (first parameter : String) (s : ValueType)
    (types : List ValueType) :
    (Arguments.mk [(first, [Binding.argument 0]),
        (parameter, (List.range' 1 types.length).map Binding.argument)]).map
      (boundType ((s :: types).map (none, ·))) = ⟨[(first, [s]), (parameter, types)]⟩ :=
  congrArg (fun as => Arguments.mk [(first, [s]), (parameter, as)]) (boundType_positional [s] types)

section Only

variable {ctx : TypingContext} {host : Host} {name first parameter : String} {f : Function}
  {rule : TypeRule} {build : Builder} {m : Matcher} {t : ValueType} {arg : Expr} {args : List Expr}

section Variadic

variable (found : ctx.functions.get? name = some f)
  (only : f.overloads = [⟨[.variadic parameter .anything], rule, build⟩]) (given : args ≠ [])
  (span : Span)
include found only given

/-- A call that passes all arguments to a variadic parameter is typed by the rule. -/
theorem Expr.infer_variadic : ((callOf span name args).infer ctx).2 = .ok t ↔
    ∃ types : List ValueType, args.map (fun e => (e.infer ctx).2) = types.map .ok ∧
      rule ⟨[(parameter, types)]⟩ = .ok t := by
  constructor
  · intro accepted
    obtain ⟨types, bound, typed, applies⟩ := infer_callOf_ok found only accepted
    obtain ⟨binds, ruled⟩ := tryOverload_ok applies
    rw [bindArguments_variadic parameter (types_ne_nil given typed)] at binds
    cases binds
    rw [map_boundType_variadic] at ruled
    exact ⟨types, typed, ruled⟩
  · rintro ⟨types, typed, ruled⟩
    have binds := bindArguments_variadic parameter (types_ne_nil given typed)
    rw [infer_callOf found only typed
      (tryOverload_ok_iff.mpr ⟨binds, by rwa [map_boundType_variadic]⟩)]

theorem Expr.build_infer_variadic (accepted : ((callOf span name args).infer ctx).2 = .ok t) :
    ((callOf span name args).infer ctx).1.build host = (do
      let cs ← args.mapM fun e => (e.infer ctx).1.build host
      build ⟨[(parameter, cs)]⟩ t) := by
  obtain ⟨types, bound, typed, applies⟩ := infer_callOf_ok found only accepted
  have binds := (tryOverload_ok applies).1
  rw [bindArguments_variadic parameter (types_ne_nil given typed)] at binds
  cases binds
  have count : types.length = (args.map fun e => (e.infer ctx).1).length := by
    simpa using (congrArg List.length typed).symm
  rw [infer_callOf found only typed applies, count, build_variadic only, List.mapM_map]
  rfl

end Variadic

section RequiredVariadic

variable (found : ctx.functions.get? name = some f)
  (only : f.overloads = [⟨[.required first m, .variadic parameter .anything], rule, build⟩])
  (distinct : first ≠ parameter) (given : args ≠ []) (span : Span)
include found only distinct given

/-- A call that passes all arguments but the first to a variadic parameter is typed by the rule. -/
theorem Expr.infer_required_variadic : ((callOf span name (arg :: args)).infer ctx).2 = .ok t ↔
    ∃ (s : ValueType) (types : List ValueType), (arg.infer ctx).2 = .ok s ∧
      args.map (fun e => (e.infer ctx).2) = types.map .ok ∧ m.accepts s = true ∧
      rule ⟨[(first, [s]), (parameter, types)]⟩ = .ok t := by
  constructor
  · intro accepted
    obtain ⟨_ | ⟨s, types⟩, bound, typed, applies⟩ := infer_callOf_ok found only accepted
    · cases typed
    obtain ⟨typedFirst, typed⟩ := List.cons.inj typed
    obtain ⟨binds, ruled⟩ := tryOverload_ok applies
    obtain ⟨accepts, rfl⟩ :=
      (bindArguments_required_variadic distinct (types_ne_nil given typed)).mp binds
    rw [map_boundType_required_variadic] at ruled
    exact ⟨s, types, typedFirst, typed, accepts, ruled⟩
  · rintro ⟨s, types, typedFirst, typed, accepts, ruled⟩
    have all : (arg :: args).map (fun e => (e.infer ctx).2) = (s :: types).map .ok := by
      rw [List.map_cons, typedFirst, typed]
      rfl
    have binds := (bindArguments_required_variadic distinct (types_ne_nil given typed)).mpr
      ⟨accepts, rfl⟩
    rw [infer_callOf found only all
      (tryOverload_ok_iff.mpr ⟨binds, by rwa [map_boundType_required_variadic]⟩)]

theorem Expr.build_infer_required_variadic
    (accepted : ((callOf span name (arg :: args)).infer ctx).2 = .ok t) :
    ((callOf span name (arg :: args)).infer ctx).1.build host = (do
      let c ← (arg.infer ctx).1.build host
      let cs ← args.mapM fun e => (e.infer ctx).1.build host
      build ⟨[(first, [c]), (parameter, cs)]⟩ t) := by
  obtain ⟨_ | ⟨s, types⟩, bound, typed, applies⟩ := infer_callOf_ok found only accepted
  · cases typed
  have rest := (List.cons.inj typed).2
  obtain ⟨_, rfl⟩ := (bindArguments_required_variadic distinct (types_ne_nil given rest)).mp
    (tryOverload_ok applies).1
  have count : types.length = (args.map fun e => (e.infer ctx).1).length := by
    simpa using (congrArg List.length rest).symm
  rw [infer_callOf found only typed applies, count, List.map_cons, build_required_variadic only,
    List.mapM_map]
  rfl

end RequiredVariadic

end Only

end Rowwise
