import Rowwise.Proofs.Evaluation.Soundness
import Rowwise.Proofs.Typing.Reports
import Rowwise.Proofs.Typing.Structure

/-!
# Typing does not depend on earlier typings

Notes and bindings are written once, and a typing that fails leaves those behind that it wrote
before it failed.  Two things keep them harmless.

A typing that is made again finds exactly its own notes.  Whatever it wrote agrees with what it is
about to write, so that nothing changes: `Expr.typing_repeatable`.

A typing that is accepted has met each note and each binding of the earlier ones, and has found
that it is the one that it would have written itself.  Hence it leaves the tree as it leaves a tree
without notes: `Expr.typing_unhindered`.
-/

namespace Rowwise

open Typing

variable {ctx : TypingContext} {contexts : List TypingContext}

/-! ## The same typing again -/

@[simp] theorem Resolution.sameTarget_self (r : Resolution) : r.sameTarget r = true := by
  cases r <;> simp [sameTarget, Function.isSame]

namespace Typing

/-- A node that is settled once more is left as it is, and the outcome is the same. -/
theorem settle_settle (e : Expr) (r : Inferred) : settle (settle e r).1 r = settle e r := by
  cases r with
  | error es => rfl
  | ok t =>
      cases h : e.type? with
      | none =>
          have noted : (e.withNote { e.note with type := some t }).type? = some t := by
            rw [Expr.type?, Expr.note_withNote]
          simp only [settle, h, noted, if_true]
      | some s =>
          -- Both branches leave the node alone, so that the second settling is the first one.
          have kept : (settle e (.ok t)).1 = e := by
            simp only [settle, h]
            split <;> rfl
          rw [kept]

/-- A step that binds a call, in a way that does not depend on how it is bound. -/
def Binds (name : String) (span : Span)
    (step : Option Resolution → Option Resolution × Inferred) : Prop :=
  (∃ es, ∀ old, step old = (old, .error es)) ∨
    ∃ new t, ∀ old, step old = bindCall name span old new t

/-- A binding step that is taken once more finds its own binding, or the one that was in its
way. -/
theorem Binds.again {name : String} {span : Span}
    {step : Option Resolution → Option Resolution × Inferred} (h : Binds name span step)
    (old : Option Resolution) : step (step old).1 = step old := by
  obtain ⟨es, left⟩ | ⟨new, t, binds⟩ := h
  · simp only [left]
  · simp only [binds]
    obtain ⟨rfl, bound⟩ | ⟨r, rfl, same, bound⟩ | ⟨es, _, bound⟩ :=
      bindCall_cases name span old new t
    · rw [bound]
      exact if_pos new.sameTarget_self
    · rw [bound]
      exact bound
    · rw [bound]
      exact bound

theorem inferCall_binds (ctx : TypingContext) (name : String) (span : Span)
    (names : List (Option String)) (results : List Inferred) :
    Binds name span (inferCall ctx name span names results) := by
  unfold inferCall
  cases ctx.functions.get? name with
  | none => exact .inl ⟨_, fun _ => rfl⟩
  | some f =>
      cases allTypes results with
      | error es => exact .inl ⟨es, fun _ => rfl⟩
      | ok types =>
          dsimp only
          cases chooseOverload (names.zip types) 0 f.overloads with
          | error reasons => exact .inl ⟨_, fun _ => rfl⟩
          | ok found => exact .inr ⟨_, _, fun _ => rfl⟩

theorem inferAggregation_binds (ctx : TypingContext) (a : Aggregation) (name : String)
    (span : Span) (args : List (Option String × Expr)) :
    Binds name span (inferAggregation ctx a name span args) := by
  obtain ⟨es, _, left⟩ | ⟨bound, _, column, t, _, _, _, _, _, binds⟩ :=
    inferAggregation_cases ctx a name span args
  · exact .inl ⟨es, left⟩
  · exact .inr ⟨_, t, binds⟩

/-- A node is left as it is if its rule, applied to what it left behind, comes to the same. -/
theorem infer_settle {e : Expr} {r : Inferred}
    (again : ∀ note : Note, note.span = e.note.span →
      (e.withNote note).infer ctx = settle (e.withNote note) r) :
    (settle e r).1.infer ctx = settle e r := by
  obtain ⟨note, left⟩ := settle_fst e r
  have span : note.span = e.note.span := by
    rw [← note_span_settle e r, left, Expr.note_withNote]
  calc (settle e r).1.infer ctx = settle (settle e r).1 r := by rw [left, again note span]
    _ = settle e r := settle_settle e r

end Typing

theorem Args.noteLiterals_noteLiterals (args : Args) :
    args.noteLiterals.noteLiterals = args.noteLiterals := by
  induction args using Args.induction with
  | nil => rfl
  | cons name value rest ih => cases value <;> simp only [noteLiterals, ih, Option.getD_some]

mutual

/-- A typing that is made again has the same outcome, and leaves every note and every binding as
it is. -/
theorem Expr.infer_infer (ctx : TypingContext) :
    ∀ e : Expr, (e.infer ctx).1.infer ctx = e.infer ctx
  | .constant _ _ => infer_settle fun _ _ => rfl
  | .column _ _ | .flowVariable _ _ => by
      refine infer_settle fun note span => ?_
      rw [Expr.withNote, Expr.infer, span]
      rfl
  | .unary _ op arg => by
      refine infer_settle fun note span => ?_
      rw [Expr.withNote, Expr.infer, Expr.infer_infer ctx arg, span]
      rfl
  | .binary _ left op right => by
      refine infer_settle fun note span => ?_
      rw [Expr.withNote, Expr.infer, Expr.infer_infer ctx left, Expr.infer_infer ctx right, span]
      rfl
  | .conditional _ condition yes no => by
      refine infer_settle fun note span => ?_
      rw [Expr.withNote, Expr.infer, Expr.infer_infer ctx condition, Expr.infer_infer ctx yes,
        Expr.infer_infer ctx no, span]
      rfl
  | .call note .function name args old => by
      have again := (inferCall_binds ctx name note.span (args.infer ctx).1.names
        (args.infer ctx).2).again old
      rw [Expr.infer_functionCall]
      refine infer_settle fun note' span => ?_
      rw [Expr.withNote, Expr.infer_functionCall, Args.infer_infer ctx args, span]
      simp only [Expr.note, again]
  | .call note .aggregation name args old => by
      cases ha : ctx.aggregations.get? name with
      | none =>
          have refused := Expr.infer_unknownAggregation ha note args old
          rw [refused]
          exact refused
      | some a =>
          have again :=
            (inferAggregation_binds ctx a name note.span args.noteLiterals.toList).again old
          rw [Expr.infer_aggregationCall ha]
          refine infer_settle fun note' span => ?_
          rw [Expr.withNote, Expr.infer_aggregationCall ha, Args.noteLiterals_noteLiterals, span]
          simp only [Expr.note, again]

theorem Args.infer_infer (ctx : TypingContext) :
    ∀ args : Args, (args.infer ctx).1.infer ctx = args.infer ctx
  | .nil => rfl
  | .cons _ value rest => by
      simp only [Args.infer, Expr.infer_infer ctx value, Args.infer_infer ctx rest]

end

/-- Typing is repeatable: after any typings of any tree, those in the same context that follow each
other all have the outcome of the first, and leave the notes and bindings of the first. -/
theorem Expr.typing_repeatable (ctx : TypingContext) (history : List TypingContext) (e : Expr)
    (repeats : Nat) :
    (e.inferAll (history ++ List.replicate repeats ctx)).infer ctx =
      (e.inferAll history).infer ctx := by
  induction repeats with
  | zero => rw [List.replicate_zero, List.append_nil]
  | succ n ih =>
      rw [List.replicate_succ', ← List.append_assoc, Expr.inferAll, List.foldl_append]
      show ((e.inferAll (history ++ List.replicate n ctx)).infer ctx).1.infer ctx = _
      rw [Expr.infer_infer, ih]

/-! ## A typing that is accepted -/

theorem Expr.fresh_inferAll (history : List TypingContext) (e : Expr) :
    (e.inferAll history).fresh = e.fresh := by
  induction history generalizing e with
  | nil => rfl
  | cons c rest ih => exact (ih _).trans (Expr.fresh_infer c e)

namespace Typing

/-- A node that is accepted would have been settled in the same way without its note. -/
theorem settle_fresh {e : Expr} {r : Inferred} {t : ValueType} (accepted : (settle e r).2 = .ok t) :
    settle (e.withNote e.note.fresh) r = settle e r := by
  obtain ⟨rfl, noted⟩ := settle_ok accepted
  have unnoted : (e.withNote e.note.fresh).type? = none := by
    rw [Expr.type?, Expr.note_withNote, Note.fresh]
  have settled : settle e (.ok t) = (e.withNote { e.note with type := some t }, .ok t) :=
    Prod.ext noted accepted
  rw [settled, settle, unnoted]
  simp only [Expr.note_withNote, Expr.withNote_withNote, Note.fresh]

/-- A call that is accepted would have been bound in the same way if it had not been bound, where
a binding to the same target is the same binding. -/
theorem bindCall_fresh {name : String} {span : Span} {old : Option Resolution} {new : Resolution}
    {t u : ValueType} (kept : ∀ r, old = some r → r.sameTarget new = true → r = new)
    (accepted : (bindCall name span old new t).2 = .ok u) :
    bindCall name span none new t = bindCall name span old new t := by
  obtain ⟨rfl, _⟩ | ⟨r, rfl, same, bound⟩ | ⟨es, _, refused⟩ := bindCall_cases name span old new t
  · rfl
  · rw [bound, kept r rfl same]
    rfl
  · rw [refused] at accepted
    cases accepted

end Typing

/-- Literals get the same types noted, whatever is noted at them. -/
theorem Args.Coherent.noteLiterals_fresh : ∀ {args : Args}, args.Coherent contexts →
    (∀ b ∈ args.noteLiterals.toList, ∃ note c, b.2 = .constant note c) →
    args.fresh.noteLiterals = args.noteLiterals
  | .nil, _, _ => rfl
  | .cons name value rest, h, constants => by
      have ih := h.2.noteLiterals_fresh fun b hb => constants b (.tail _ hb)
      cases value with
      | constant note c =>
          have own : note.type.getD c.valueType = c.valueType := by
            cases hn : note.type with
            | none => rfl
            | some s => exact h.1 s hn
          show Args.cons name (.constant { note.fresh with type := some c.valueType } c)
              rest.fresh.noteLiterals =
            .cons name (.constant { note with type := some (note.type.getD c.valueType) } c)
              rest.noteLiterals
          rw [ih, own, Note.fresh]
      | _ =>
          obtain ⟨note, c, hc⟩ := constants _ (.head _)
          cases hc

section Calls

variable {note : Note} {name : String} {args : Args} {old : Option Resolution} {t : ValueType}

/-- A call of a function that is accepted was unbound, or is bound as it would be bound now. -/
theorem Expr.Coherent.infer_fresh_functionCall (agree : TypingContext.Agree contexts)
    (member : ctx ∈ contexts)
    (coherent : (Expr.call note .function name args old).Coherent contexts)
    (arguments : ∀ types : List ValueType, (args.infer ctx).2 = types.map .ok →
      args.fresh.infer ctx = args.infer ctx)
    (accepted : ((Expr.call note .function name args old).infer ctx).2 = .ok t) :
    (Expr.call note .function name args old).fresh.infer ctx =
      (Expr.call note .function name args old).infer ctx := by
  obtain ⟨f, types, i, o, bound, u, hf, typed, ho, applies, binds⟩ :=
    Expr.infer_functionCall_ok accepted
  have binding : FunctionBinding (args.infer ctx).1 f (.function f i bound) u :=
    .intro ho (Args.types?_of_infer typed) applies
  rw [Expr.infer_functionCall, binds] at accepted
  rw [Expr.fresh, Expr.infer_functionCall, Expr.infer_functionCall, arguments types typed,
    Note.fresh, binds, binds,
    bindCall_fresh (coherent.function_kept agree member hf binding) (settle_ok accepted).1]
  exact settle_fresh accepted

/-- So was a call of an aggregation, whose literals are the same with and without notes. -/
theorem Expr.Coherent.infer_fresh_aggregationCall (agree : TypingContext.Agree contexts)
    (member : ctx ∈ contexts)
    (coherent : (Expr.call note .aggregation name args old).Coherent contexts)
    (accepted : ((Expr.call note .aggregation name args old).infer ctx).2 = .ok t) :
    (Expr.call note .aggregation name args old).fresh.infer ctx =
      (Expr.call note .aggregation name args old).infer ctx := by
  obtain ⟨a, bound, n, column, u, ha, constants, literal, _, _, _, binds⟩ :=
    Expr.infer_aggregationCall_ok accepted
  rw [Expr.infer_aggregationCall ha, binds] at accepted
  rw [Expr.fresh, Expr.infer_aggregationCall ha, Expr.infer_aggregationCall ha,
    coherent.1.noteLiterals_fresh constants, Note.fresh, binds, binds,
    bindCall_fresh (coherent.aggregation_kept agree member ha literal) (settle_ok accepted).1]
  exact settle_fresh accepted

end Calls

mutual

/-- A coherent tree that is accepted is left behind as the tree without notes is. -/
theorem Expr.infer_fresh (agree : TypingContext.Agree contexts) (member : ctx ∈ contexts) :
    ∀ {e : Expr} {t : ValueType}, e.Coherent contexts → (e.infer ctx).2 = .ok t →
      e.fresh.infer ctx = e.infer ctx
  | .constant _ _, _, _, accepted | .column _ _, _, _, accepted
  | .flowVariable _ _, _, _, accepted => settle_fresh accepted
  | .unary _ _ arg, _, coherent, accepted => by
      obtain ⟨a, ha, _⟩ := Expr.infer_unary_ok accepted
      rw [Expr.fresh, Expr.infer, Expr.infer_fresh (e := arg) agree member coherent ha]
      exact settle_fresh accepted
  | .binary _ _ _ _, _, ⟨hl, hr⟩, accepted => by
      obtain ⟨a, b, ha, hb, _⟩ := Expr.infer_binary_ok accepted
      rw [Expr.fresh, Expr.infer, Expr.infer_fresh agree member hl ha,
        Expr.infer_fresh agree member hr hb]
      exact settle_fresh accepted
  | .conditional _ _ _ _, _, ⟨hc, hy, hn⟩, accepted => by
      obtain ⟨a, b, c, ha, hb, hd, _⟩ := Expr.infer_conditional_ok accepted
      rw [Expr.fresh, Expr.infer, Expr.infer_fresh agree member hc ha,
        Expr.infer_fresh agree member hy hb, Expr.infer_fresh agree member hn hd]
      exact settle_fresh accepted
  | .call _ .function _ _ _, _, coherent, accepted =>
      coherent.infer_fresh_functionCall agree member
        (fun _ typed => Args.infer_fresh agree member coherent.1 typed) accepted
  | .call _ .aggregation _ _ _, _, coherent, accepted =>
      coherent.infer_fresh_aggregationCall agree member accepted

theorem Args.infer_fresh (agree : TypingContext.Agree contexts) (member : ctx ∈ contexts) :
    ∀ {args : Args} {types : List ValueType}, args.Coherent contexts →
      (args.infer ctx).2 = types.map .ok → args.fresh.infer ctx = args.infer ctx
  | .nil, _, _, _ => rfl
  | .cons _ _ _, [], _, accepted => by cases accepted
  | .cons _ _ _, _ :: _, coherent, accepted => by
      obtain ⟨hv, hrest⟩ := List.cons.inj accepted
      rw [Args.fresh, Args.infer, Expr.infer_fresh agree member coherent.1 hv,
        Args.infer_fresh agree member coherent.2 hrest, Args.infer]

end

/-- A node has its type noted, and is bound if it is a call. -/
def Expr.Noted : Expr → Prop
  | .call note _ _ _ resolution => note.type ≠ none ∧ resolution ≠ none
  | e => e.type? ≠ none

/-- The root of a well-typed tree is noted. -/
theorem Expr.WellTyped.noted {e : Expr} (h : e.WellTyped ctx) : e.Noted := by
  have noted {o : Option ValueType} {t : ValueType} (ho : o = some t) : o ≠ none := by simp [ho]
  match e, h with
  | .constant _ _, h => exact noted h
  | .column _ _, ⟨_, _, hn⟩ => exact noted hn
  | .flowVariable _ _, ⟨_, _, hn⟩ => exact noted hn
  | .unary _ _ _, ⟨_, _, _, _, _, hn⟩ => exact noted hn
  | .binary _ _ _ _, ⟨_, _, _, _, _, _, _, _, hn⟩ => exact noted hn
  | .conditional _ _ _ _, ⟨_, _, _, _, _, _, _, _, _, _, _, hn⟩ => exact noted hn
  | .call _ .function _ _ _, ⟨_, _, _, _, _, hr, _, hn⟩ => exact ⟨noted hn, by simp [hr]⟩
  | .call _ .aggregation _ _ _, ⟨_, _, _, _, _, _, _, hr, _, _, _, _, hn⟩ =>
      exact ⟨noted hn, by simp [hr]⟩

/-- An accepted typing does not depend on what was tried before: after any history of typings,
accepted or not, it has the outcome that it has on the tree as it was parsed, and leaves the same
types and the same bindings behind, with a type at every node and a binding at every call. -/
theorem Expr.typing_unhindered {history : List TypingContext} {e : Expr} {t : ValueType}
    (agree : TypingContext.Agree (ctx :: history)) (untyped : e.Untyped)
    (accepted : ((e.inferAll history).infer ctx).2 = .ok t) :
    e.infer ctx = (e.inferAll history).infer ctx ∧ ∀ n ∈ (e.infer ctx).1.nodes, n.Noted := by
  have coherent : (e.inferAll history).Coherent (ctx :: history) :=
    .inferAll agree (fun c hc => .tail _ hc) untyped.coherent
  have same : e.infer ctx = (e.inferAll history).infer ctx :=
    calc e.infer ctx = (e.inferAll history).fresh.infer ctx := by
          rw [Expr.fresh_inferAll, untyped.fresh_eq]
      _ = (e.inferAll history).infer ctx := Expr.infer_fresh agree (.head _) coherent accepted
  have wellTyped : (e.infer ctx).1.WellTyped ctx := by
    rw [same]
    exact Expr.wellTyped_of_infer agree untyped accepted
  exact ⟨same, fun n hn => (wellTyped.of_mem_nodes n hn).noted⟩

namespace Sample

/-- The context `context` without its column. -/
def columnless : TypingContext := { context with column := TypingContext.onlyRows }

theorem columnless_agrees : TypingContext.Agree [context, columnless] where
  functions c hc d hd n k f g hf hg _ := by
    have one_of {c : TypingContext} {n : String} {f : Function} (hc : c ∈ [context, columnless])
        (hf : c.functions.get? n = some f) : f = one := by
      simp only [List.mem_cons, List.not_mem_nil, or_false] at hc
      obtain rfl | rfl := hc <;> exact context_functions hf
    rw [one_of hc hf, one_of hd hg]
  aggregations c hc d hd n k a b ha hb _ := by
    simp only [List.mem_cons, List.not_mem_nil, or_false] at hc
    obtain rfl | rfl := hc <;> cases ha

/-- `$a + one()` was rejected for lack of a column once, when its call was bound already. -/
theorem sum_unhindered :
    (sum.inferAll [columnless] ≠ sum ∧ ((sum.infer columnless).2.toOption = none)) ∧
      sum.infer context = (sum.inferAll [columnless]).infer context ∧
        ∀ n ∈ (sum.infer context).1.nodes, n.Noted := by
  refine ⟨⟨fun h => ?_, rfl⟩, Expr.typing_unhindered (t := .optionalOf .integer) columnless_agrees
    ⟨rfl, rfl, rfl, rfl, trivial⟩ rfl⟩
  cases h

end Sample

end Rowwise
