import Rowwise.Typing.Infer

/-!
# Well-typed trees

Typing writes into the tree: the type of every node, and the binding of every call.  A tree can be
typed again, in another context, and what was noted before stays.  `Expr.WellTyped` says that the
notes of a tree are those that the rules of a context give, and `Expr.Coherent` says of a tree in
any state between untyped and typed that the notes it does carry fit each other.

The calls of a tree are bound to functions and aggregations as objects, of which the contexts of
one tree must not hold two that pass for the same: `TypingContext.Agree`.
-/

namespace Rowwise

open Typing

/-! ## Arguments as a list -/

/-- Induction over the arguments of a call, whatever they are themselves. -/
@[elab_as_elim]
theorem Args.induction {P : Args → Prop} (nil : P .nil)
    (cons : ∀ name value rest, P rest → P (.cons name value rest)) (args : Args) : P args :=
  @Args.rec (fun _ => True) P (fun _ _ => trivial) (fun _ _ => trivial) (fun _ _ => trivial)
    (fun _ _ _ _ => trivial) (fun _ _ _ _ _ _ => trivial) (fun _ _ _ _ _ _ _ => trivial)
    (fun _ _ _ _ _ _ => trivial) nil (fun name value rest _ ih => cons name value rest ih) args

/-! ## States of a tree -/

mutual

/-- No node has a type and no call is bound, as in a tree that has just been parsed. -/
def Expr.Untyped : Expr → Prop
  | .constant note _ | .column note _ | .flowVariable note _ => note.type = none
  | .unary note _ arg => note.type = none ∧ arg.Untyped
  | .binary note left _ right => note.type = none ∧ left.Untyped ∧ right.Untyped
  | .conditional note condition yes no =>
    note.type = none ∧ condition.Untyped ∧ yes.Untyped ∧ no.Untyped
  | .call note _ _ args resolution => note.type = none ∧ resolution = none ∧ args.Untyped

def Args.Untyped : Args → Prop
  | .nil => True
  | .cons _ value rest => value.Untyped ∧ rest.Untyped

end

/-- The tree after it was typed in several contexts, one after the other, whether they accepted it
or not. -/
def Expr.inferAll (history : List TypingContext) (e : Expr) : Expr :=
  history.foldl (fun e ctx => (e.infer ctx).1) e

/-- Callables that pass for the same are the same, throughout some contexts. -/
structure TypingContext.Agree (contexts : List TypingContext) : Prop where
  functions : ∀ c ∈ contexts, ∀ d ∈ contexts, ∀ (n k : String) (f g : Function),
    c.functions.get? n = some f → d.functions.get? k = some g → f.isSame g = true → f = g
  aggregations : ∀ c ∈ contexts, ∀ d ∈ contexts, ∀ (n k : String) (a b : Aggregation),
    c.aggregations.get? n = some a → d.aggregations.get? k = some b → a.name = b.name → a = b

/-- The types noted at the arguments of a call. -/
def Args.types? (args : Args) : List (Option ValueType) := args.toList.map (·.2.type?)

/-- The names of the arguments of a call. -/
def Args.names (args : Args) : List (Option String) := args.toList.map (·.1)

namespace Typing

/-- What the literal arguments of an aggregation bind to its parameters. -/
def bindLiterals (a : Aggregation) (name : String) (args : List (Option String × Expr)) :
    Option (Arguments Value) :=
  let values := (literals name 0 args).filterMap fun
    | .ok v => some v
    | .error _ => none
  match bindArguments a.params ((args.map (·.1)).zip (values.map Value.valueType)) with
  | .ok bound =>
    some (bound.map fun
      | .argument i => values.getD i .missing
      | .default v => v)
  | .error _ => none

/-- A binding of a call that the types of its arguments lead to, with the type that the overload's
rule gives. -/
inductive FunctionBinding (args : Args) (f : Function) : Resolution → ValueType → Prop where
  | intro {index : Nat} {bound : Arguments Binding} {overload : Overload} {types : List ValueType}
      {t : ValueType} (chosen : f.overloads[index]? = some overload)
      (typed : args.types? = types.map some)
      (applies : tryOverload overload (args.names.zip types) = .ok (bound, t)) :
      FunctionBinding args f (.function f index bound) t

/-- A binding of a call of an aggregation that its literals lead to. -/
inductive AggregationBinding (args : Args) (name : String) (a : Aggregation) :
    Resolution → Prop where
  | intro {column : ValueType} {bound : Arguments Value}
      (literal : bindLiterals a name args.toList = some bound) :
      AggregationBinding args name a (.aggregation a column bound)

end Typing

mutual

/-- The notes are those that the rules of the context give. -/
def Expr.WellTyped (ctx : TypingContext) : Expr → Prop
  | .constant note c => note.type = some c.valueType
  | .column note ref => ∃ t, ctx.column ref = .ok t ∧ note.type = some t
  | .flowVariable note name => ∃ t, ctx.flowVariable name = .ok t ∧ note.type = some t
  | .unary note op arg =>
    arg.WellTyped ctx ∧
      ∃ a t, arg.type? = some a ∧ unaryType op a = .ok t ∧ note.type = some t
  | .binary note left op right =>
    left.WellTyped ctx ∧ right.WellTyped ctx ∧
      ∃ a b t, left.type? = some a ∧ right.type? = some b ∧ binaryType op a b = .ok t ∧
        note.type = some t
  | .conditional note condition yes no =>
    condition.WellTyped ctx ∧ yes.WellTyped ctx ∧ no.WellTyped ctx ∧
      ∃ a b c t, condition.type? = some a ∧ yes.type? = some b ∧ no.type? = some c ∧
        conditionalType a b c = .ok t ∧ note.type = some t
  | .call note .function name args resolution =>
    args.WellTyped ctx ∧
      ∃ f r t, ctx.functions.get? name = some f ∧ resolution = some r ∧
        FunctionBinding args f r t ∧ note.type = some t
  | .call note .aggregation name args resolution =>
    args.WellTyped ctx ∧
      ∃ a column bound n t, ctx.aggregations.get? name = some a ∧
        resolution = some (.aggregation a column bound) ∧
        bindLiterals a name args.toList = some bound ∧ Aggregation.columnName? bound = some n ∧
        ctx.column (.named n 0) = .ok column ∧ a.returnType column = .ok t ∧ note.type = some t

def Args.WellTyped (ctx : TypingContext) : Args → Prop
  | .nil => True
  | .cons _ value rest => value.WellTyped ctx ∧ rest.WellTyped ctx

end

mutual

/-- Literals carry their own type if any, and a call that is bound is bound as the types of its
arguments lead to, to a callable of one of the contexts. -/
def Expr.Coherent (contexts : List TypingContext) : Expr → Prop
  | .constant note c => ∀ t, note.type = some t → t = c.valueType
  | .column .. | .flowVariable .. => True
  | .unary _ _ arg => arg.Coherent contexts
  | .binary _ left _ right => left.Coherent contexts ∧ right.Coherent contexts
  | .conditional _ condition yes no =>
    condition.Coherent contexts ∧ yes.Coherent contexts ∧ no.Coherent contexts
  | .call _ .function _ args resolution =>
    args.Coherent contexts ∧ ∀ r, resolution = some r →
      ∃ c ∈ contexts, ∃ n f t, c.functions.get? n = some f ∧ FunctionBinding args f r t
  | .call _ .aggregation name args resolution =>
    args.Coherent contexts ∧ ∀ r, resolution = some r →
      ∃ c ∈ contexts, ∃ n a, c.aggregations.get? n = some a ∧ AggregationBinding args name a r

def Args.Coherent (contexts : List TypingContext) : Args → Prop
  | .nil => True
  | .cons _ value rest => value.Coherent contexts ∧ rest.Coherent contexts

end

mutual

/-- A tree without notes is coherent. -/
theorem Expr.Untyped.coherent {contexts : List TypingContext} :
    ∀ {e : Expr}, e.Untyped → e.Coherent contexts
  | .constant _ _, h => fun t ht => by
      rw [Expr.Untyped] at h
      rw [h] at ht
      cases ht
  | .column _ _, _ => trivial
  | .flowVariable _ _, _ => trivial
  | .unary _ _ _, h => h.2.coherent
  | .binary _ _ _ _, h => ⟨h.2.1.coherent, h.2.2.coherent⟩
  | .conditional _ _ _ _, h => ⟨h.2.1.coherent, h.2.2.1.coherent, h.2.2.2.coherent⟩
  | .call _ .function _ _ _, h => ⟨h.2.2.coherent, fun r hr => by rw [h.2.1] at hr; cases hr⟩
  | .call _ .aggregation _ _ _, h => ⟨h.2.2.coherent, fun r hr => by rw [h.2.1] at hr; cases hr⟩

theorem Args.Untyped.coherent {contexts : List TypingContext} :
    ∀ {args : Args}, args.Untyped → args.Coherent contexts
  | .nil, _ => trivial
  | .cons _ _ _, h => ⟨h.1.coherent, h.2.coherent⟩

end

mutual

/-- Every node of a well-typed tree is the root of one. -/
theorem Expr.WellTyped.of_mem_nodes {ctx : TypingContext} :
    ∀ {e : Expr}, e.WellTyped ctx → ∀ n ∈ e.nodes, n.WellTyped ctx
  | .constant _ _, h, n, hn | .column _ _, h, n, hn | .flowVariable _ _, h, n, hn => by
      rw [Expr.nodes, List.mem_singleton] at hn
      exact hn ▸ h
  | .unary _ _ arg, h, n, hn => by
      rw [Expr.nodes, List.mem_cons] at hn
      obtain rfl | hn := hn
      · exact h
      · exact Expr.WellTyped.of_mem_nodes h.1 n hn
  | .binary _ left _ right, h, n, hn => by
      rw [Expr.nodes, List.mem_cons, List.mem_append] at hn
      obtain rfl | hn | hn := hn
      · exact h
      · exact Expr.WellTyped.of_mem_nodes h.1 n hn
      · exact Expr.WellTyped.of_mem_nodes h.2.1 n hn
  | .conditional _ _ _ _, h, n, hn => by
      rw [Expr.nodes, List.mem_cons, List.mem_append, List.mem_append] at hn
      obtain rfl | (hn | hn) | hn := hn
      · exact h
      · exact Expr.WellTyped.of_mem_nodes h.1 n hn
      · exact Expr.WellTyped.of_mem_nodes h.2.1 n hn
      · exact Expr.WellTyped.of_mem_nodes h.2.2.1 n hn
  | .call _ .function _ _ _, h, n, hn | .call _ .aggregation _ _ _, h, n, hn => by
      rw [Expr.nodes, List.mem_cons] at hn
      obtain rfl | hn := hn
      · exact h
      · exact Args.WellTyped.of_mem_nodes h.1 n hn

theorem Args.WellTyped.of_mem_nodes {ctx : TypingContext} :
    ∀ {args : Args}, args.WellTyped ctx → ∀ n ∈ args.nodes, n.WellTyped ctx
  | .nil, _, n, hn => by simp [Args.nodes] at hn
  | .cons _ _ _, h, n, hn => by
      rw [Args.nodes, List.mem_append] at hn
      obtain hn | hn := hn
      · exact Expr.WellTyped.of_mem_nodes h.1 n hn
      · exact Args.WellTyped.of_mem_nodes h.2 n hn

end

end Rowwise
