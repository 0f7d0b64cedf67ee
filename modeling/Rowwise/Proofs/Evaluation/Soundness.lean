import Rowwise.Proofs.Evaluation.OperatorSoundness
import Rowwise.Proofs.Typing.Inference
import Rowwise.Proofs.Typing.Binding
import Rowwise.Evaluation.Build

/-!
# Typed trees evaluate

The computer of a well-typed tree exists and fits the type of the tree, and so do the computers of
all of its subtrees: `Expr.WellTyped.computes`.  What comes from outside is assumed node by node,
`Host.Supports`: an access or an aggregation has to have a computer that fits the type noted at
it, and a call of a function has to have one if its arguments do.

`Expr.evaluation_sound` is the theorem for a registry of sound functions.  A function is sound if
its overloads turn computers that fit the types of the arguments into one that fits the type which
their own rule gives, `Overload.Sound`.
-/

namespace Rowwise

open Typing Evaluation

variable {R : Regime} {ctx : TypingContext} {host : Host}

/-! ## What is asked of the outside -/

/-- The tree has a computer, which fits the type noted at the tree. -/
def Expr.Computes (R : Regime) (host : Host) (e : Expr) : Prop :=
  ∃ c t, e.build host = .ok c ∧ e.type? = some t ∧ c.Fits R t

/-- The type of what a parameter is bound to, for arguments of the given types. -/
def Typing.boundType (args : List ArgumentType) : Binding → ValueType
  | .argument i => ((args[i]?).map (·.2)).getD .missing
  | .default v => v.valueType

/-- The overload applies to arguments of these types with a result of type `t`, and `given` holds
computers for what its parameters are bound to, with their types. -/
structure Overload.Applied (R : Regime) (o : Overload) (args : List ArgumentType) (t : ValueType)
    (given : Arguments (Computer × ValueType)) : Prop where
  applies : ∃ bound, tryOverload o args = .ok (bound, t) ∧
    given.map (·.2) = bound.map (boundType args)
  fits : ∀ g ∈ given.values, g.1.Fits R g.2

/-- Wherever the overload applies, it builds a computer that fits the type which its rule gives. -/
def Overload.Sound (R : Regime) (o : Overload) : Prop :=
  ∀ args t given, o.Applied R args t given →
    ∃ c, o.build (given.map (·.1)) t = .ok c ∧ c.Fits R t

namespace Host

/-- The host serves the name that a node stands for with a computer of the type noted at it.  Of
other nodes nothing is asked. -/
def Serves (R : Regime) (host : Host) : Expr → Prop
  | e@(.column _ ref) => ∀ t, e.type? = some t → ∃ c, host.column ref = some c ∧ c.Fits R t
  | e@(.flowVariable _ name) =>
    ∀ t, e.type? = some t → ∃ c, host.flowVariable name = some c ∧ c.Fits R t
  | e@(.call _ .aggregation _ _ _) =>
    ∀ t, e.type? = some t → ∃ c, host.aggregation e = some c ∧ c.Fits R t
  | _ => True

/-- A node whose computer comes from outside has one: that of a call of a function if its
arguments have theirs. -/
def Supports (R : Regime) (host : Host) : Expr → Prop
  | e@(.call _ .function _ args _) => (∀ a ∈ args.toList, a.2.Computes R host) → e.Computes R host
  | e => host.Serves R e

end Host

/-! ## One node after the other -/

theorem Expr.WellTyped.unary_computes {note : Note} {op : UnaryOp} {arg : Expr}
    (h : (Expr.unary note op arg).WellTyped ctx) (ha : arg.Computes R host) :
    (Expr.unary note op arg).Computes R host := by
  obtain ⟨_, a, t, harg, ht, hnote⟩ := h
  obtain ⟨c, s, hc, hs, fits⟩ := ha
  cases harg.symm.trans hs
  obtain ⟨d, hd, fits'⟩ := Operator.unary_sound ht fits
  refine ⟨d, t, ?_, hnote, fits'⟩
  rw [Expr.build, hc]
  exact hd

theorem Expr.WellTyped.binary_computes {note : Note} {left right : Expr} {op : BinaryOp}
    (h : (Expr.binary note left op right).WellTyped ctx) (hl : left.Computes R host)
    (hr : right.Computes R host) : (Expr.binary note left op right).Computes R host := by
  obtain ⟨_, _, a, b, t, hleft, hright, ht, hnote⟩ := h
  obtain ⟨l, s, hl, hs, fits_l⟩ := hl
  cases hleft.symm.trans hs
  obtain ⟨r, u, hr, hu, fits_r⟩ := hr
  cases hright.symm.trans hu
  obtain ⟨d, hd, fits⟩ := Operator.binary_sound ht fits_l fits_r
  refine ⟨d, t, ?_, hnote, fits⟩
  have type : typeOf (.binary note left op right) = .ok t := by rw [typeOf, Expr.type?, Expr.note, hnote]
  rw [Expr.build, type, hl, hr]
  exact hd

/-- The source of a branch that is taken can be as optional as the type of the conditional says. -/
theorem select_sound {x : Source Bool} {c d : Computer} {a t : ValueType} {yes no : ValueType}
    {o : Bool} (hx : x.Fits R o) (join : yes.join no = some t)
    (hc : c.Fits R (.ofBase t.base yes.isOptional)) (hd : d.Fits R (.ofBase t.base no.isOptional)) :
    ∃ e, Computer.zip (Source.select x) c d = .ok e ∧
      e.Fits R (t.withOptional (t.isOptional || a.isOptional)) := by
  refine Computer.zip_ok hc hd fun hy hn => ?_
  refine (Source.select_fits hx hy hn).weaken fun h => ?_
  rw [Computer.isOptional_of_join join, h, Bool.true_or]

theorem Expr.WellTyped.conditional_computes {note : Note} {condition yes no : Expr}
    (h : (Expr.conditional note condition yes no).WellTyped ctx)
    (hc : condition.Computes R host) (hy : yes.Computes R host) (hn : no.Computes R host) :
    (Expr.conditional note condition yes no).Computes R host := by
  obtain ⟨_, _, _, a, b, c, t, hcond, hyes, hno, ht, hnote⟩ := h
  obtain ⟨x, s, hx, hs, fits_x⟩ := hc
  cases hcond.symm.trans hs
  obtain ⟨y, s, hy, hs, fits_y⟩ := hy
  cases hyes.symm.trans hs
  obtain ⟨z, s, hz, hs, fits_z⟩ := hn
  cases hno.symm.trans hs
  have type : typeOf (.conditional note condition yes no) = .ok t := by
    rw [typeOf, Expr.type?, Expr.note, hnote]
  unfold conditionalType at ht
  split at ht
  · cases ht
  · next hbool =>
      split at ht
      · cases ht
      · next u join =>
          cases ht
          obtain ⟨x', hx', fits_x⟩ := fits_x.as_ok (.inl (Decidable.not_not.mp hbool))
          obtain ⟨y', hy', fits_y⟩ := fits_y.coerce_ok (Computer.coercible_of_join join).1
          obtain ⟨z', hz', fits_z⟩ := fits_z.coerce_ok (Computer.coercible_of_join join).2
          obtain ⟨d, hd, fits⟩ := select_sound (a := a) fits_x join fits_y fits_z
          refine ⟨d, _, ?_, hnote, fits⟩
          rw [Expr.build, type, hx, hy, hz]
          simp only [Except.ok_bind, hx', ValueType.base_withOptional, hy', hz']
          exact hd

/-! ## Calls of functions -/

/-- The arguments of a call have computers that fit the types noted at them. -/
theorem Args.build_fits : ∀ {args : Args} {types : List ValueType},
    (∀ a ∈ args.toList, a.2.Computes R host) → args.types? = types.map some →
    ∃ cs : List Computer, args.build host = cs.map .ok ∧
      ∀ (i : Nat) t, types[i]? = some t → ∃ c : Computer, cs[i]? = some c ∧ c.Fits R t
  | .nil, types, _, typed => by
      obtain rfl := List.map_eq_nil_iff.mp typed.symm
      exact ⟨[], rfl, by simp⟩
  | .cons name value rest, [], _, typed => by simp at typed
  | .cons name value rest, s :: types, h, typed => by
      rw [Args.types?_cons, List.map_cons, List.cons.injEq] at typed
      obtain ⟨c, u, hc, hu, fits⟩ := h _ (.head _)
      cases hu.symm.trans typed.1
      obtain ⟨cs, hcs, hfits⟩ := Args.build_fits (fun a ha => h a (.tail _ ha)) typed.2
      refine ⟨c :: cs, by rw [Args.build, hc, hcs, List.map_cons], fun i t ht => ?_⟩
      cases i with
      | zero =>
          cases ht
          exact ⟨c, rfl, fits⟩
      | succ i => exact hfits i t ht

/-- The argument that a computer of the list belongs to. -/
theorem Args.argument_of_build : ∀ {args : Args} {i : Nat} {cs : List Computer}
    {types : List ValueType}, args.build host = cs.map .ok → args.types? = types.map some →
    ∀ c t, cs[i]? = some c → types[i]? = some t →
      ∃ a, args.toList[i]? = some a ∧ a.2.build host = .ok c ∧ a.2.type? = some t
  | .nil, i, cs, types, built, typed => by
      intro c t hc ht
      obtain rfl := List.map_eq_nil_iff.mp typed.symm
      simp at ht
  | .cons name value rest, i, cs, types, built, typed => by
      intro c t hc ht
      cases cs with
      | nil => simp at hc
      | cons d cs =>
          cases types with
          | nil => simp at ht
          | cons s types =>
              rw [Args.build, List.map_cons, List.cons.injEq] at built
              rw [Args.types?_cons, List.map_cons, List.cons.injEq] at typed
              cases i with
              | zero =>
                  cases hc
                  cases ht
                  exact ⟨_, rfl, built.1, typed.1⟩
              | succ i => exact Args.argument_of_build built.2 typed.2 c t hc ht

/-- The computer and the type of what a parameter is bound to, for arguments of the given computers
and types. -/
def Typing.givenFor (cs : List Computer) (types : List ValueType) :
    Binding → Computer × ValueType
  | .argument i => (cs.getD i .missing, types.getD i .missing)
  | .default v => (.constant v, v.valueType)

/-- An overload applies if its signature accepts the arguments and its rule their types. -/
theorem Typing.tryOverload_ok {o : Overload} {args : List ArgumentType} {bound : Arguments Binding}
    {t : ValueType} (h : tryOverload o args = .ok (bound, t)) :
    bindArguments o.params args = .ok bound ∧ o.typeRule (bound.map (boundType args)) = .ok t := by
  unfold tryOverload at h
  split at h
  · cases h
  · next bound' hb =>
      change Except.map (bound', ·) (o.typeRule (bound'.map (boundType args))) = _ at h
      cases ht : o.typeRule (bound'.map (boundType args)) with
      | error e => rw [ht] at h; cases h
      | ok u =>
          rw [ht] at h
          cases h
          exact ⟨hb, ht⟩

section Applied

variable {o : Overload} {names : List (Option String)} {types : List ValueType}
  {bound : Arguments Binding} {t : ValueType}

/-- An overload that applies has bound its parameters to their defaults and to arguments. -/
theorem Typing.bound_of_applied (lengths : names.length = types.length)
    (applied : tryOverload o (names.zip types) = .ok (bound, t)) :
    ∀ b ∈ bound.values,
      (∃ v, b = .default v ∧ ∃ p ∈ o.params, p.arity = .optional (some v)) ∨
        ∃ i s, b = .argument i ∧ types[i]? = some s := by
  have binds := bindArguments_lt (tryOverload_ok applied).1
  rwa [List.map_snd_zip (by omega)] at binds

/-- The types of what is given are those that the overload was chosen for. -/
theorem Typing.types_given (lengths : names.length = types.length)
    (applied : tryOverload o (names.zip types) = .ok (bound, t)) (cs : List Computer) :
    (bound.map (givenFor cs types)).map (·.2) = bound.map (boundType (names.zip types)) := by
  rw [Arguments.map_map]
  refine Arguments.map_congr fun b hb => ?_
  obtain ⟨v, rfl, _⟩ | ⟨i, s, rfl, hs⟩ := bound_of_applied lengths applied b hb
  · rfl
  · rw [boundType, ← List.getElem?_map, List.map_snd_zip (by omega)]
    exact List.getD_eq_getElem?_getD

/-- A parameter that is bound to an argument is given its computer, which fits its type. -/
theorem Typing.given_of_applied (lengths : names.length = types.length)
    (applied : tryOverload o (names.zip types) = .ok (bound, t)) {cs : List Computer}
    (hfits : ∀ (i : Nat) s, types[i]? = some s → ∃ c : Computer, cs[i]? = some c ∧ c.Fits R s) :
    ∀ b ∈ bound.values,
      (∃ v, b = .default v ∧ ∃ p ∈ o.params, p.arity = .optional (some v)) ∨
        ∃ (i : Nat) (c : Computer) (s : ValueType), b = .argument i ∧ cs[i]? = some c ∧
          types[i]? = some s ∧ c.Fits R s ∧ givenFor cs types b = (c, s) := by
  intro b hb
  obtain default | ⟨i, s, rfl, hs⟩ := bound_of_applied lengths applied b hb
  · exact .inl default
  · obtain ⟨c, hc, fits⟩ := hfits i s hs
    refine .inr ⟨i, c, s, rfl, hc, hs, fits, ?_⟩
    rw [givenFor, List.getD_eq_getElem?_getD, List.getD_eq_getElem?_getD, hc, hs]
    rfl

end Applied

/-- The computer of a bound call is what an overload builds that applies to the arguments.  For what
a parameter is bound to it is given a default of the parameter, or the computer and the type of
the argument. -/
theorem Typing.FunctionBinding.build_eq {note : Note} {name : String} {args : Args} {f : Function}
    {r : Resolution} {t : ValueType} (binding : FunctionBinding args f r t)
    (noted : note.type = some t) (h : ∀ a ∈ args.toList, a.2.Computes R host) :
    ∃ index bound g, r = .function f index bound ∧ ∃ o ∈ f.overloads, ∃ types,
      o.Applied R types t (bound.map g) ∧
      (Expr.call note .function name args (some r)).build host =
        o.build ((bound.map g).map (·.1)) t ∧
      ∀ b ∈ bound.values,
        (∃ v, ∃ p ∈ o.params, b = .default v ∧ p.arity = .optional (some v)) ∨
        ∃ i a, b = .argument i ∧ args.toList[i]? = some a ∧ a.2.build host = .ok (g b).1 ∧
          a.2.type? = some (g b).2 := by
  obtain @⟨index, bound, o, types, _, chosen, typed, applied⟩ := binding
  obtain ⟨cs, hcs, hfits⟩ := Args.build_fits h typed
  have lengths : args.names.length = types.length := by
    have := congrArg List.length typed
    simpa [Args.names, Args.types?] using this
  have given := given_of_applied lengths applied hfits
  refine ⟨index, bound, givenFor cs types, rfl, o, List.mem_of_getElem? chosen, _,
    ⟨⟨bound, applied, types_given lengths applied cs⟩, fun g hg => ?_⟩, ?_, fun b hb => ?_⟩
  · rw [Arguments.values_map] at hg
    obtain ⟨b, hb, rfl⟩ := List.mem_map.mp hg
    obtain ⟨v, rfl, _⟩ | ⟨_, c, s, _, _, _, fits, eq⟩ := given b hb
    · exact Computer.constant_fits v
    · rw [eq]
      exact fits
  · have type : typeOf (.call note .function name args (some (.function f index bound))) =
        .ok t := by
      rw [typeOf, Expr.type?, Expr.note, noted]
    rw [Expr.build, type, hcs]
    unfold buildCall
    dsimp only
    rw [Arguments.mapExcept_ok (g := fun b => (givenFor cs types b).1), Except.ok_bind, chosen]
    · rw [Arguments.map_map]
      rfl
    · intro b hb
      obtain ⟨v, rfl, _⟩ | ⟨i, c, s, rfl, hc, _, _, eq⟩ := given b hb
      · rfl
      · simp [eq, hc]
  · obtain ⟨v, rfl, p, hp, default⟩ | ⟨i, c, s, rfl, hc, hs, _, eq⟩ := given b hb
    · exact .inl ⟨v, p, hp, rfl, default⟩
    · obtain ⟨a, ha, built⟩ := Args.argument_of_build hcs typed c s hc hs
      exact .inr ⟨i, a, rfl, ha, by rwa [eq]⟩

/-- A call that is bound to a sound overload has a computer if its arguments do. -/
theorem Typing.FunctionBinding.computes {note : Note} {name : String} {args : Args} {f : Function}
    {r : Resolution} {t : ValueType} (binding : FunctionBinding args f r t)
    (noted : note.type = some t) (sound : ∀ o ∈ f.overloads, o.Sound R)
    (h : ∀ a ∈ args.toList, a.2.Computes R host) :
    (Expr.call note .function name args (some r)).Computes R host := by
  obtain ⟨_, _, _, _, o, ho, types, applied, build, _⟩ := binding.build_eq noted h
  obtain ⟨c, hc, fits⟩ := sound o ho types t _ applied
  exact ⟨c, t, build.trans hc, noted, fits⟩

/-! ## Trees -/

theorem Expr.mem_nodes_self (e : Expr) : e ∈ e.nodes := by
  cases e <;> simp [Expr.nodes]

mutual

/-- The nodes of a subtree are nodes of the tree. -/
theorem Expr.nodes_subset : ∀ {e : Expr}, ∀ n ∈ e.nodes, n.nodes ⊆ e.nodes
  | .constant _ _, n, hn | .column _ _, n, hn | .flowVariable _ _, n, hn => by
      rw [Expr.nodes, List.mem_singleton] at hn
      exact hn ▸ List.Subset.refl _
  | .unary _ _ arg, n, hn => by
      rw [Expr.nodes, List.mem_cons] at hn
      obtain rfl | hn := hn
      · exact List.Subset.refl _
      · exact fun m hm => .tail _ (Expr.nodes_subset n hn hm)
  | .binary _ left _ right, n, hn => by
      rw [Expr.nodes, List.mem_cons, List.mem_append] at hn
      obtain rfl | hn | hn := hn
      · exact List.Subset.refl _
      · exact fun m hm => .tail _ (List.mem_append_left _ (Expr.nodes_subset n hn hm))
      · exact fun m hm => .tail _ (List.mem_append_right _ (Expr.nodes_subset n hn hm))
  | .conditional _ condition yes no, n, hn => by
      rw [Expr.nodes, List.mem_cons, List.mem_append, List.mem_append] at hn
      intro m hm
      obtain rfl | (hn | hn) | hn := hn
      · exact hm
      · exact .tail _ (List.mem_append_left _ (List.mem_append_left _ (Expr.nodes_subset n hn hm)))
      · exact .tail _ (List.mem_append_left _ (List.mem_append_right _ (Expr.nodes_subset n hn hm)))
      · exact .tail _ (List.mem_append_right _ (Expr.nodes_subset n hn hm))
  | .call _ _ _ args _, n, hn => by
      rw [Expr.nodes, List.mem_cons] at hn
      obtain rfl | hn := hn
      · exact List.Subset.refl _
      · exact fun m hm => .tail _ (Args.nodes_subset n hn hm)

theorem Args.nodes_subset : ∀ {args : Args}, ∀ n ∈ args.nodes, n.nodes ⊆ args.nodes
  | .nil, n, hn => absurd hn List.not_mem_nil
  | .cons _ value rest, n, hn => by
      rw [Args.nodes, List.mem_append] at hn
      intro m hm
      obtain hn | hn := hn
      · exact List.mem_append_left _ (Expr.nodes_subset n hn hm)
      · exact List.mem_append_right _ (Args.nodes_subset n hn hm)

end

mutual

/-- A well-typed tree of which the host supports every node has a computer of its type. -/
theorem Expr.WellTyped.computes : ∀ {e : Expr}, e.WellTyped ctx →
    (∀ n ∈ e.nodes, host.Supports R n) → e.Computes R host
  | .constant note c, h, _ => ⟨.constant c.toValue, c.valueType, rfl, h, Computer.constant_fits _⟩
  | .column note ref, h, supports => by
      obtain ⟨t, _, hnote⟩ := h
      obtain ⟨c, hc, fits⟩ := supports _ (Expr.mem_nodes_self _) t hnote
      exact ⟨c, t, by rw [Expr.build, hc], hnote, fits⟩
  | .flowVariable note name, h, supports => by
      obtain ⟨t, _, hnote⟩ := h
      obtain ⟨c, hc, fits⟩ := supports _ (Expr.mem_nodes_self _) t hnote
      exact ⟨c, t, by rw [Expr.build, hc], hnote, fits⟩
  | .unary _ _ arg, h, supports => by
      have ha := Expr.WellTyped.computes h.1 fun n hn => supports n (.tail _ hn)
      exact h.unary_computes ha
  | .binary _ left _ right, h, supports => by
      have hl := Expr.WellTyped.computes h.1 fun n hn =>
        supports n (.tail _ (List.mem_append_left _ hn))
      have hr := Expr.WellTyped.computes h.2.1 fun n hn =>
        supports n (.tail _ (List.mem_append_right _ hn))
      exact h.binary_computes hl hr
  | .conditional _ condition yes no, h, supports => by
      have hc := Expr.WellTyped.computes h.1 fun n hn =>
        supports n (.tail _ (List.mem_append_left _ (List.mem_append_left _ hn)))
      have hy := Expr.WellTyped.computes h.2.1 fun n hn =>
        supports n (.tail _ (List.mem_append_left _ (List.mem_append_right _ hn)))
      have hn := Expr.WellTyped.computes h.2.2.1 fun n hn =>
        supports n (.tail _ (List.mem_append_right _ hn))
      exact h.conditional_computes hc hy hn
  | .call _ .function _ args _, h, supports => by
      have ha := Args.WellTyped.computes h.1 fun n hn => supports n (.tail _ hn)
      exact supports _ (Expr.mem_nodes_self _) ha
  | .call _ .aggregation _ _ _, h, supports => by
      obtain ⟨_, _, _, _, _, t, _, _, _, _, _, _, hnote⟩ := h
      obtain ⟨c, hc, fits⟩ := supports _ (Expr.mem_nodes_self _) t hnote
      exact ⟨c, t, by rw [Expr.build, hc], hnote, fits⟩

theorem Args.WellTyped.computes : ∀ {args : Args}, args.WellTyped ctx →
    (∀ n ∈ args.nodes, host.Supports R n) → ∀ a ∈ args.toList, a.2.Computes R host
  | .nil, _, _, a, ha => absurd ha List.not_mem_nil
  | .cons _ value rest, h, supports, a, ha => by
      obtain rfl | ha := List.mem_cons.mp ha
      · exact Expr.WellTyped.computes h.1 fun n hn => supports n (List.mem_append_left _ hn)
      · exact Args.WellTyped.computes h.2 (fun n hn => supports n (List.mem_append_right _ hn)) a ha

end

/-- So do all subtrees. -/
theorem Expr.WellTyped.computes_nodes {e : Expr} (h : e.WellTyped ctx)
    (supports : ∀ n ∈ e.nodes, host.Supports R n) : ∀ n ∈ e.nodes, n.Computes R host :=
  fun n hn => (h.of_mem_nodes n hn).computes fun m hm => supports m (Expr.nodes_subset n hn hm)

/-- With a registry of sound functions, a host supports every node of a well-typed tree of which
it serves the names. -/
theorem Expr.WellTyped.supports {e : Expr} (h : e.WellTyped ctx) (serves : host.Serves R e)
    (registry : ∀ name f, ctx.functions.get? name = some f → ∀ o ∈ f.overloads, o.Sound R) :
    host.Supports R e := by
  cases e with
  | call note callee name args resolution =>
      cases callee with
      | aggregation => exact serves
      | function =>
          intro computes
          obtain ⟨_, f, r, t, hf, rfl, binding, hnote⟩ := h
          exact binding.computes hnote (registry name f hf) computes
  | _ => exact serves

/-! ## The evaluator -/

/-- Evaluation never goes wrong: of a tree that is accepted, after any history of typings, every
node has a computer that fits its type, and reading its value ends with a value of that type or
with a failure that lies in the row. -/
theorem Expr.evaluation_sound {rows : Moment → Prop} {history : List TypingContext} {e : Expr}
    {t : ValueType} (agree : TypingContext.Agree (ctx :: history)) (untyped : e.Untyped)
    (registry : ∀ name f, ctx.functions.get? name = some f →
      ∀ o ∈ f.overloads, o.Sound (.strict rows))
    (accepted : ((e.inferAll history).infer ctx).2 = .ok t)
    (serves : ∀ n ∈ ((e.inferAll history).infer ctx).1.nodes, host.Serves (.strict rows) n) :
    ((e.inferAll history).infer ctx).1.type? = some t ∧
      ∀ n ∈ ((e.inferAll history).infer ctx).1.nodes, ∃ c s, n.build host = .ok c ∧
        n.type? = some s ∧ c.Fits (.strict rows) s ∧
        ∀ m, rows m → ∀ log, (∃ v, (c.value.at_ m log).1 = .ok v ∧ v.HasType s) ∨
          ∃ cause, (c.value.at_ m log).1 = .error (.failure cause) := by
  have typed := Expr.wellTyped_of_infer agree untyped accepted
  refine ⟨Expr.type?_of_infer accepted, fun n hn => ?_⟩
  have supports : ∀ n ∈ ((e.inferAll history).infer ctx).1.nodes, host.Supports (.strict rows) n :=
    fun n hn => (typed.of_mem_nodes n hn).supports (serves n hn) registry
  obtain ⟨c, s, hc, hs, fits⟩ := typed.computes_nodes supports n hn
  refine ⟨c, s, hc, hs, fits, fun m hm log => ?_⟩
  obtain ⟨v, hv⟩ | ⟨_, ⟨cause, rfl⟩, hv⟩ := fits.value_regular hm
  · exact .inl ⟨v, hv log, fits.hasType_of_value hm hv⟩
  · exact .inr ⟨cause, hv log⟩

namespace Sample

/-- A function without parameters, whose value is 1 on every row. -/
def one : Function :=
  .simple "one" .mathGeneral "One." [] [] (TypeRule.exactly (.required .integer)) fun _ _ =>
    .ok (.constant (.integer 1))

/-- A column `a` of integers that may be missing, and the function `one`. -/
def context : TypingContext :=
  { column := fun
      | .named "a" _ => .ok (.optionalOf .integer)
      | ref => TypingContext.onlyRows ref
    flowVariable := TypingContext.noFlowVariables
    functions := Library.ofList Function.name [one]
    aggregations := .empty }

/-- A column whose cells are missing on odd rows. -/
def gaps : Computer :=
  .ofCells (some .integer) fun row => if row % 2 = 0 then .integer 7 else .missing

/-- `$a + one()` -/
def sum : Expr :=
  .binary {} (.column {} (.named "a" 0)) .plus (.call {} .function "one" .nil none)

theorem gaps_fits (R : Regime) : gaps.Fits R (.optionalOf .integer) := by
  refine Computer.ofCells_fits (t := .optionalOf .integer) fun m _ => ?_
  split
  · exact .inr ⟨.integer, 7, rfl, rfl⟩
  · exact .inl ⟨rfl, rfl⟩

theorem one_sound (R : Regime) : ∀ o ∈ one.overloads, o.Sound R := by
  intro o ho args t given applied
  obtain rfl := List.mem_singleton.mp ho
  obtain ⟨bound, applies, _⟩ := applied.applies
  have rule := (tryOverload_ok applies).2
  cases rule
  exact ⟨_, rfl, Computer.constant_fits _⟩

theorem context_functions {name : String} {f : Function} (h : context.functions.get? name = some f) :
    f = one := by
  simp only [context, Library.ofList, List.foldl_cons, List.foldl_nil, Named.get?_insert] at h
  split at h
  · exact (Option.some.inj h).symm
  · cases h

theorem context_agrees : TypingContext.Agree [context, context] where
  functions c hc d hd n k f g hf hg _ := by
    simp only [List.mem_cons, List.not_mem_nil, or_false, or_self] at hc hd
    subst hc
    subst hd
    rw [context_functions hf, context_functions hg]
  aggregations c hc d hd n k a b ha hb _ := by
    simp only [List.mem_cons, List.not_mem_nil, or_false, or_self] at hc
    subst hc
    cases ha

/-- Typed for the second time, `$a + one()` is accepted and has a value of its type on every
row. -/
theorem sum_evaluates :
    ((sum.inferAll [context]).infer context).1.type? = some (.optionalOf .integer) ∧
      ∀ n ∈ ((sum.inferAll [context]).infer context).1.nodes, ∃ c s,
        n.build { Host.empty with column := fun _ => some gaps } = .ok c ∧
        n.type? = some s ∧ c.Fits (.strict fun _ => True) s ∧
        ∀ m, True → ∀ log, (∃ v, (c.value.at_ m log).1 = .ok v ∧ v.HasType s) ∨
          ∃ cause, (c.value.at_ m log).1 = .error (.failure cause) := by
  refine Expr.evaluation_sound context_agrees ⟨rfl, rfl, rfl, rfl, trivial⟩
    (fun _ _ hf => context_functions hf ▸ one_sound _) rfl fun n hn => ?_
  change n ∈ [_, _, _] at hn
  simp only [List.mem_cons, List.not_mem_nil, or_false] at hn
  obtain rfl | rfl | rfl := hn
  · trivial
  · intro t ht
    cases ht
    exact ⟨gaps, rfl, gaps_fits _⟩
  · trivial

end Sample

end Rowwise
