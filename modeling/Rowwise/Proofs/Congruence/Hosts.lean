import Rowwise.Proofs.Congruence.Expressions
import Rowwise.Proofs.Table
import Rowwise.Proofs.Typing.Inference

/-!
# Hosts that keep to a congruence

A host is *proper* for a congruence if every computer that it serves is related to itself.  What is
built over such a host for a tree that was parsed is proper too, if the functions that are called
are (`Expr.Untyped.proper_build`).  For that it has to be known where these functions come from:
none is bound in a tree that was parsed, and typing binds only functions of its context
(`Expr.boundTo_infer`).

Everything that a table and flow variables serve is proper as soon as computers over cells are
(`Table.proper_host`), since results of aggregations are constants that may warn or fail.
-/

namespace Rowwise

open Eval

variable {R : Congruence}

/-! ## Hosts -/

/-- The computer is related to itself. -/
abbrev Computer.Proper (R : Congruence) (c : Computer) : Prop := c.Related R c

/-- All computers that the host serves are proper. -/
structure Host.Proper (R : Congruence) (host : Host) : Prop where
  column : ∀ ref c, host.column ref = some c → c.Proper R
  flowVariable : ∀ name c, host.flowVariable name = some c → c.Proper R
  aggregation : ∀ e c, host.aggregation e = some c → c.Proper R

namespace Accumulator

theorem proper_missingResult (isFloat : Bool) (warning : String) :
    (missingResult isFloat warning).Proper R := by
  have warned {α : Type} : (warnMissing (α := α) warning).Related R (warnMissing warning) :=
    ⟨proper_warned warning true, proper_throw _⟩
  cases isFloat with
  | true => exact .of warned
  | false => exact .of warned

theorem proper_result (a : Accumulator) : a.result.Proper R := by
  have constants (v : Value) : (Computer.constant v).Proper R := Computer.constant_related v
  have missings := proper_missingResult (R := R)
  unfold result
  split
  · split
    · exact missings ..
    · split
      · exact constants _
      · split
        · exact constants _
        · split
          · exact constants _
          · exact missings ..
  · split
    · exact missings ..
    · split
      · split
        · exact constants _
        · exact .of (Source.present_related (proper_fail _))
      · split
        · exact .of (Source.present_related (proper_warned _ 0))
        · exact constants _
  · split
    · exact missings ..
    · split
      · exact missings ..
      · exact constants _
  · exact constants _

end Accumulator

/-- What tables and flow variables serve is proper if computers over cells are. -/
theorem Table.proper_host (cells : ∀ base read, (Computer.ofCells base read).Proper R) (t : Table)
    (vars : FlowVariables) : (t.host vars).Proper R where
  column ref c served := by
    obtain ⟨base, read, rfl⟩ := Table.column_served served
    exact cells base read
  flowVariable name c served := by
    obtain ⟨v, _, rfl⟩ := Option.map_eq_some_iff.mp served
    exact Computer.constant_related v
  aggregation e c served := by
    obtain ⟨a, rfl⟩ := Table.aggregation_served served
    exact a.proper_result

/-! ## What calls are bound to -/

/-- If the node is a bound call of a function, the function has the property. -/
def Expr.BoundTo (p : Function → Prop) : Expr → Prop
  | .call _ .function _ _ resolution => ∀ f i bound, resolution = some (.function f i bound) → p f
  | _ => True

section Bound

variable {p : Function → Prop}

mutual

/-- No call of a tree that was parsed is bound. -/
theorem Expr.Untyped.boundTo : ∀ {e : Expr}, e.Untyped → ∀ n ∈ e.nodes, n.BoundTo p
  | .constant _ _, _ | .column _ _, _ | .flowVariable _ _, _ =>
      List.forall_mem_singleton.mpr trivial
  | .unary _ _ _, h => List.forall_mem_cons.mpr ⟨trivial, Expr.Untyped.boundTo h.2⟩
  | .binary _ _ _ _, h => List.forall_mem_cons.mpr ⟨trivial, List.forall_mem_append.mpr
      ⟨Expr.Untyped.boundTo h.2.1, Expr.Untyped.boundTo h.2.2⟩⟩
  | .conditional _ _ _ _, h => List.forall_mem_cons.mpr ⟨trivial, List.forall_mem_append.mpr
      ⟨List.forall_mem_append.mpr ⟨Expr.Untyped.boundTo h.2.1, Expr.Untyped.boundTo h.2.2.1⟩,
        Expr.Untyped.boundTo h.2.2.2⟩⟩
  | .call _ callee _ _ _, ⟨_, unbound, hargs⟩ => by
      subst unbound
      refine List.forall_mem_cons.mpr ⟨?_, Args.Untyped.boundTo hargs⟩
      cases callee with
      | function => exact fun _ _ _ h => nomatch h
      | aggregation => trivial

theorem Args.Untyped.boundTo : ∀ {args : Args}, args.Untyped → ∀ n ∈ args.nodes, n.BoundTo p
  | .nil, _ => fun _ hn => absurd hn List.not_mem_nil
  | .cons _ _ _, h =>
      List.forall_mem_append.mpr ⟨Expr.Untyped.boundTo h.1, Args.Untyped.boundTo h.2⟩

end

theorem Args.boundTo_noteLiterals : ∀ {args : Args}, (∀ n ∈ args.nodes, n.BoundTo p) →
    ∀ n ∈ args.noteLiterals.nodes, n.BoundTo p
  | .nil, h => h
  | .cons name value rest, h => by
      obtain ⟨hvalue, hrest⟩ := List.forall_mem_append.mp h
      have rest := Args.boundTo_noteLiterals hrest
      cases value with
      | constant note c =>
          exact List.forall_mem_append.mpr ⟨List.forall_mem_singleton.mpr trivial, rest⟩
      | _ => exact List.forall_mem_append.mpr ⟨hvalue, rest⟩

variable {ctx : TypingContext}

theorem Typing.boundTo_inferCall (registry : ∀ name f, ctx.functions.get? name = some f → p f)
    {name : String} {span : Span} {names : List (Option String)} {results : List Inferred}
    {old : Option Resolution} (h : ∀ f i bound, old = some (.function f i bound) → p f) :
    ∀ f i bound, (inferCall ctx name span names results old).1 = some (.function f i bound) →
      p f := by
  unfold inferCall
  dsimp only
  split
  · exact h
  · next f found =>
      split
      · exact h
      · split
        · unfold bindCall
          split
          · intro g i bound same
            cases same
            exact registry name f found
          · split <;> exact h
        · exact h

/-- Settling a node changes its note only, which says nothing about bindings. -/
theorem Typing.boundTo_settle {e : Expr} (h : ∀ n ∈ e.nodes, n.BoundTo p) (r : Inferred) :
    ∀ n ∈ (settle e r).1.nodes, n.BoundTo p := by
  obtain ⟨note, settled⟩ := settle_fst e r
  rw [settled]
  cases e with
  | call _ callee _ _ _ =>
      obtain ⟨root, children⟩ := List.forall_mem_cons.mp h
      cases callee <;> exact List.forall_mem_cons.mpr ⟨root, children⟩
  | _ => exact List.forall_mem_cons.mpr ⟨trivial, (List.forall_mem_cons.mp h).2⟩

mutual

/-- Typing binds calls to functions of the context, or leaves them bound. -/
theorem Expr.boundTo_infer (registry : ∀ name f, ctx.functions.get? name = some f → p f) :
    ∀ {e : Expr}, (∀ n ∈ e.nodes, n.BoundTo p) →
    ∀ n ∈ (e.infer ctx).1.nodes, n.BoundTo p
  | .constant _ _, h | .column _ _, h | .flowVariable _ _, h => Typing.boundTo_settle h _
  | .unary _ _ _, h => by
      refine Typing.boundTo_settle ?_ _
      exact List.forall_mem_cons.mpr
        ⟨trivial, Expr.boundTo_infer registry (List.forall_mem_cons.mp h).2⟩
  | .binary _ _ _ _, h => by
      obtain ⟨hl, hr⟩ := List.forall_mem_append.mp (List.forall_mem_cons.mp h).2
      refine Typing.boundTo_settle ?_ _
      exact List.forall_mem_cons.mpr ⟨trivial,
        List.forall_mem_append.mpr ⟨Expr.boundTo_infer registry hl, Expr.boundTo_infer registry hr⟩⟩
  | .conditional _ _ _ _, h => by
      obtain ⟨h, hn⟩ := List.forall_mem_append.mp (List.forall_mem_cons.mp h).2
      obtain ⟨hc, hy⟩ := List.forall_mem_append.mp h
      refine Typing.boundTo_settle ?_ _
      exact List.forall_mem_cons.mpr ⟨trivial, List.forall_mem_append.mpr
        ⟨List.forall_mem_append.mpr
          ⟨Expr.boundTo_infer registry hc, Expr.boundTo_infer registry hy⟩,
          Expr.boundTo_infer registry hn⟩⟩
  | .call _ .function _ _ _, h => by
      obtain ⟨root, hargs⟩ := List.forall_mem_cons.mp h
      rw [Expr.infer_functionCall]
      refine Typing.boundTo_settle ?_ _
      exact List.forall_mem_cons.mpr
        ⟨Typing.boundTo_inferCall registry root, Args.boundTo_infer registry hargs⟩
  | .call _ .aggregation name _ _, h => by
      obtain ⟨_, hargs⟩ := List.forall_mem_cons.mp h
      cases ha : ctx.aggregations.get? name with
      | none =>
          -- An aggregation that is unknown leaves the call as it was.
          rw [Expr.infer_unknownAggregation ha]
          exact h
      | some a =>
          rw [Expr.infer_aggregationCall ha]
          refine Typing.boundTo_settle ?_ _
          exact List.forall_mem_cons.mpr ⟨trivial, Args.boundTo_noteLiterals hargs⟩

theorem Args.boundTo_infer (registry : ∀ name f, ctx.functions.get? name = some f → p f) :
    ∀ {args : Args}, (∀ n ∈ args.nodes, n.BoundTo p) →
    ∀ n ∈ (args.infer ctx).1.nodes, n.BoundTo p
  | .nil, h => h
  | .cons _ value rest, h => by
      obtain ⟨hvalue, hrest⟩ := List.forall_mem_append.mp h
      rw [Args.infer]
      exact List.forall_mem_append.mpr
        ⟨Expr.boundTo_infer registry hvalue, Args.boundTo_infer registry hrest⟩

end

end Bound

/-! ## Trees -/

theorem rel_of_proper {c : Option Computer} (h : ∀ d, c = some d → d.Proper R) :
    Option.Rel (Computer.Related R) c c := by
  cases c with
  | none => exact .none
  | some c => exact .some (h c rfl)

theorem Host.Proper.serveRelated {host : Host} (proper : host.Proper R) {e : Expr}
    (h : e.BoundTo (Function.Proper R)) : Host.ServeRelated R host host e := by
  cases e with
  | column note ref => exact rel_of_proper (proper.column ref)
  | flowVariable note name => exact rel_of_proper (proper.flowVariable name)
  | call note callee name args resolution =>
      cases callee with
      | aggregation => exact rel_of_proper (proper.aggregation _)
      | function =>
          match resolution with
          | none => trivial
          | some (.aggregation ..) => trivial
          | some (.function f i bound) => exact h f i bound rfl
  | _ => trivial

/-- What is built for a tree that was parsed is proper. -/
theorem Expr.Untyped.proper_build {ctx : TypingContext} {host : Host} {e : Expr} {c : Computer}
    (untyped : e.Untyped) (proper : host.Proper R)
    (registry : ∀ name f, ctx.functions.get? name = some f → f.Proper R)
    (built : (e.infer ctx).1.build host = .ok c) : c.Proper R :=
  (Expr.agree_build _ fun n hn =>
    proper.serveRelated (Expr.boundTo_infer registry untyped.boundTo n hn)).self built

end Rowwise
