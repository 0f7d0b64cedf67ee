import Rowwise.Evaluation.Build
import Rowwise.Proofs.Congruence.Builders

/-!
# Expressions keep computers related

Two hosts serve a node of a tree related computers if what they answer to it is related, for a
column, a flow variable or an aggregation; a function that is called has to be proper.  Operators
make related computers of related operands.  By induction over the tree, an expression of which the
hosts serve every node related computers builds computers that are related: `Expr.agree_build`.
-/

namespace Rowwise

open Eval

variable {α : Type} {R : Congruence}

/-! ## Operators -/

namespace Operator

variable {l l' r r' : Computer}

theorem agree_unary (op : UnaryOp) (h : l.Related R l') :
    Except.Agree (Computer.Related R) (unary op l) (unary op l') := by
  cases h with
  | missing => cases op <;> exact .error _
  | @of k s s' hs =>
      cases op with
      | not =>
          cases k with
          | boolean => exact .ok (.of (hs.map _))
          | _ => exact .error _
      | minus =>
          cases k with
          | integer => exact .ok (.of (hs.map _))
          | float => exact .ok (.of (hs.map _))
          | timeDuration => exact .ok (.of (hs.map _))
          | dateDuration => exact .ok (.of (hs.tryMap fun _ => proper_inRange _ _))
          | _ => exact .error _

theorem divideIntegers_proper (x y : Int64) : (divideIntegers x y).Proper R :=
  .ite (proper_warned ..) (proper_pure _)

theorem remainderOfIntegers_proper (x y : Int64) : (remainderOfIntegers x y).Proper R :=
  .ite (proper_warned ..) (proper_pure _)

theorem agree_integers (op : BinaryOp) {a a' b b' : Source Int64} (ha : a.Related R a')
    (hb : b.Related R b') :
    Except.Agree (Source.Related R) (integers op a b) (integers op a' b') := by
  cases op with
  | plus => exact .ok (ha.combine hb fun _ _ => proper_pure _)
  | minus => exact .ok (ha.combine hb fun _ _ => proper_pure _)
  | multiply => exact .ok (ha.combine hb fun _ _ => proper_pure _)
  | floorDivide => exact .ok (ha.combine hb divideIntegers_proper)
  | remainder => exact .ok (ha.combine hb remainderOfIntegers_proper)
  | exponent => exact .ok (ha.combine hb fun _ _ => proper_pure _)
  | _ => exact .error _

theorem warnZeroDivisor_proper (what : String) (divisor result : Float) :
    (warnZeroDivisor what divisor result).Proper R :=
  .ite (proper_warned ..) (proper_pure _)

theorem agree_floats (op : BinaryOp) {a a' b b' : Source Float} (ha : a.Related R a')
    (hb : b.Related R b') : Except.Agree (Source.Related R) (floats op a b) (floats op a' b') := by
  cases op with
  | plus => exact .ok (ha.combine hb fun _ _ => proper_pure _)
  | minus => exact .ok (ha.combine hb fun _ _ => proper_pure _)
  | multiply => exact .ok (ha.combine hb fun _ _ => proper_pure _)
  | divide => exact .ok (ha.combine hb fun _ _ => warnZeroDivisor_proper _ _ _)
  | remainder => exact .ok (ha.combine hb fun _ _ => warnZeroDivisor_proper _ _ _)
  | exponent => exact .ok (ha.combine hb fun _ _ => proper_pure _)
  | _ => exact .error _

theorem agree_comparator (hl : l.Related R l') (hr : r.Related R r') :
    Except.Agree (Eval.Related R) (comparator l r) (comparator l' r') := by
  unfold comparator
  rw [hl.base_eq, hr.base_eq]
  dsimp only
  split
  · refine hl.asFloat.bind fun a a' ha => hr.asFloat.bind fun b b' hb => .ok ?_
    exact ha.compute.bind fun _ => hb.compute.bind fun _ => proper_pure _
  · cases hl with
    | missing => exact .error _
    | @of k s s' hs =>
        cases hr with
        | missing => exact .error _
        | @of m t t' ht =>
            by_cases same : m = k
            · subst same
              cases h : orderOf? m with
              | none =>
                  simp only [dif_pos, h]
                  exact .error _
              | some order =>
                  simp only [dif_pos, h]
                  exact .ok (hs.compute.bind fun _ => ht.compute.bind fun _ => proper_pure _)
            · simp only [same, dif_neg, not_false_eq_true]
              exact .error _

theorem agree_ordering (op : BinaryOp) (hl : l.Related R l') (hr : r.Related R r') :
    Except.Agree (Source.Related R) (ordering op l r) (ordering op l' r') := by
  refine (agree_comparator hl hr).bind fun compared compared' hc => .ok (Source.present_related ?_)
  refine hl.isMissing.bind fun _ => hr.isMissing.bind fun _ => .ite (proper_pure _) ?_
  exact hc.bind fun _ => proper_pure _

theorem related_equality (op : BinaryOp) (hl : l.Related R l') (hr : r.Related R r') :
    (equality op l r).Related R (equality op l' r') :=
  Source.present_related (hl.value.bind fun _ => hr.value.bind fun _ => proper_pure _)

/-- Whether the second operand is read depends on the value of the first one. -/
theorem related_decide (op : BinaryOp) {a a' b b' : Source Bool} (ha : a.Related R a')
    (hb : b.Related R b') : (decide op a b).Related R (decide op a' b') := by
  refine ha.value?.bind fun first => .ite (proper_pure _) ?_
  exact hb.value?.bind fun second => .ite (proper_pure _) (proper_pure _)

theorem related_logical (op : BinaryOp) {a a' b b' : Source Bool} (ha : a.Related R a')
    (hb : b.Related R b') : (logical op a b).Related R (logical op a' b') where
  isMissing := (related_decide op ha hb).bind fun _ => proper_pure _
  compute := (related_decide op ha hb).bind fun _ => proper_pure _

theorem shift_proper (output : Base) (op : BinaryOp) (add : Period → Option α) (p : Period) :
    (shift output op add p).Proper R :=
  (proper_inRange _ _).bind fun _ => proper_inRange _ _

/-- Sums, differences and multiples combine the two sources, or there is none for their kinds. -/
theorem agree_temporal (op : BinaryOp) (output : Base) (hl : l.Related R l') (hr : r.Related R r') :
    Except.Agree (Computer.Related R) (temporal op output l r) (temporal op output l' r') := by
  cases hl with
  | missing => cases hr <;> cases op <;> exact .error _
  | @of x sx sx' hx =>
      cases hr with
      | missing => cases op <;> cases x <;> exact .error _
      | @of y sy sy' hy =>
          -- The operator and the kinds, which both sides share, say which case it is.
          cases op
          case plus | minus =>
            cases x <;> cases y <;>
              first
              | exact .error _
              | exact .ok (.of (hx.combine hy fun _ _ => proper_inRange _ _))
              | exact .ok (.of (hx.combine hy fun _ _ => shift_proper _ _ _ _))
              | exact .ok (.of (hx.combine hy fun _ _ => proper_pure _))
          case multiply =>
            cases x <;> cases y <;>
              first
              | exact .error _
              | exact .ok (.of (hx.combine hy fun _ _ => proper_inRange _ _))
              | exact .ok (.of (hy.combine hx fun _ _ => proper_inRange _ _))
          all_goals exact .error _

theorem related_joinTexts (hl : l.Related R l') (hr : r.Related R r') :
    (joinTexts l r).Related R (joinTexts l' r') :=
  hl.textSource.combine hr.textSource fun _ _ => proper_pure _

theorem agree_binary (op : BinaryOp) (output : Base) (hl : l.Related R l') (hr : r.Related R r') :
    Except.Agree (Computer.Related R) (binary op output l r) (binary op output l' r') := by
  unfold binary
  split
  · refine (hl.coerce output).bind fun a a' ha => (hr.coerce output).bind fun b b' hb => ?_
    exact ha.zip hb fun hs ht => hs.fallback ht
  split
  · exact (agree_ordering op hl hr).bind fun _ _ hs => .ok (.of hs)
  split
  · exact .ok (.of (related_equality op hl hr))
  split
  · refine (hl.as .boolean).bind fun a a' ha => (hr.as .boolean).bind fun b b' hb => ?_
    exact .ok (.of (related_logical op ha hb))
  split
  · refine (hl.as .integer).bind fun a a' ha => (hr.as .integer).bind fun b b' hb => ?_
    exact (agree_integers op ha hb).bind fun _ _ hs => .ok (.of hs)
  split
  · refine hl.asFloat.bind fun a a' ha => hr.asFloat.bind fun b b' hb => ?_
    exact (agree_floats op ha hb).bind fun _ _ hs => .ok (.of hs)
  split
  · exact .ok (.of (related_joinTexts hl hr))
  split
  · exact agree_temporal op output hl hr
  · exact .error _

end Operator

/-! ## Trees -/

/-- What the hosts answer to a node is related, and a function that it calls is proper. -/
def Host.ServeRelated (R : Congruence) (host host' : Host) : Expr → Prop
  | .column _ ref => Option.Rel (Computer.Related R) (host.column ref) (host'.column ref)
  | .flowVariable _ name =>
    Option.Rel (Computer.Related R) (host.flowVariable name) (host'.flowVariable name)
  | e@(.call _ .aggregation _ _ _) =>
    Option.Rel (Computer.Related R) (host.aggregation e) (host'.aggregation e)
  | .call _ .function _ _ (some (.function f _ _)) => f.Proper R
  | _ => True

namespace Evaluation

/-- Computers that are served are related, and what neither host serves is one error. -/
theorem agree_served {c c' : Option Computer} (e : EvalError) :
    Option.Rel (Computer.Related R) c c' →
      Except.Agree (Computer.Related R)
        (match c with
          | some c => .ok c
          | none => .error e)
        (match c' with
          | some c => .ok c
          | none => .error e) := by
  intro h
  cases h with
  | none => exact .error e
  | some related => exact .ok related

/-- Which argument a position stands for is the same in both lists. -/
theorem rel_getElem? {β : Type} {r : α → β → Prop} {as : List α} {bs : List β}
    (h : List.Forall₂ r as bs) (i : Nat) : Option.Rel r as[i]? bs[i]? := by
  induction h generalizing i with
  | nil => exact .none
  | cons head _ ih =>
      cases i with
      | zero => exact .some head
      | succ i => exact ih i

theorem agree_buildCall (name : String) {resolution : Option Resolution}
    {args args' : List (Except EvalError Computer)} (type : Except EvalError ValueType)
    (functions : ∀ f index bound, resolution = some (.function f index bound) → f.Proper R)
    (h : List.Forall₂ (Except.Agree (Computer.Related R)) args args') :
    Except.Agree (Computer.Related R) (buildCall name resolution args type)
      (buildCall name resolution args' type) := by
  unfold buildCall
  split
  · next f index bound =>
      -- The binding lists positions, and the arguments at one position are related.
      refine Except.Agree.bind (Arguments.agree_mapExcept (R := R) bound fun b => ?_) ?_
      · cases b with
        | default v => exact .ok (Computer.constant_related v)
        | argument i =>
            have given := rel_getElem? h i
            dsimp only
            generalize args[i]? = c, args'[i]? = c' at given
            cases given with
            | none => exact .error _
            | some related => exact related
      · intro given given' related
        split
        · next o chosen =>
            cases type with
            | error e => exact .error e
            | ok t =>
                exact functions f index bound rfl o (List.mem_of_getElem? chosen) _ _ t related
        · exact .error _
  · exact .error _

end Evaluation

open Evaluation in
mutual

/-- An expression of which two hosts serve every node related computers builds related ones, or
fails for one reason. -/
theorem Expr.agree_build {host host' : Host} : ∀ e : Expr,
    (∀ n ∈ e.nodes, Host.ServeRelated R host host' n) →
      Except.Agree (Computer.Related R) (e.build host) (e.build host')
  | .constant _ c, _ => by
      rw [Expr.build, Expr.build]
      exact .ok (Computer.constant_related _)
  | .column note ref, serve => by
      have served : Option.Rel (Computer.Related R) (host.column ref) (host'.column ref) :=
        serve _ (.head _)
      rw [Expr.build, Expr.build]
      exact agree_served _ served
  | .flowVariable note name, serve => by
      have served : Option.Rel (Computer.Related R) (host.flowVariable name)
          (host'.flowVariable name) := serve _ (.head _)
      rw [Expr.build, Expr.build]
      exact agree_served _ served
  | .unary _ op arg, serve => by
      rw [Expr.build, Expr.build]
      refine (Expr.agree_build arg fun n hn => serve n (.tail _ hn)).bind fun c c' hc => ?_
      exact Operator.agree_unary op hc
  | .binary note left op right, serve => by
      rw [Expr.build, Expr.build]
      refine (Except.Agree.same (typeOf _)).bind fun type _ same => ?_
      subst same
      have hl := Expr.agree_build left fun n hn => serve n (.tail _ (List.mem_append_left _ hn))
      have hr := Expr.agree_build right fun n hn => serve n (.tail _ (List.mem_append_right _ hn))
      exact hl.bind fun l l' related => hr.bind fun r r' related' =>
        Operator.agree_binary op type.base related related'
  | .conditional note condition yes no, serve => by
      rw [Expr.build, Expr.build]
      refine (Except.Agree.same (typeOf _)).bind fun type _ same => ?_
      subst same
      have hcondition := Expr.agree_build condition fun n hn =>
        serve n (.tail _ (List.mem_append_left _ (List.mem_append_left _ hn)))
      have hyes := Expr.agree_build yes fun n hn =>
        serve n (.tail _ (List.mem_append_left _ (List.mem_append_right _ hn)))
      have hno := Expr.agree_build no fun n hn => serve n (.tail _ (List.mem_append_right _ hn))
      refine hcondition.bind fun c c' hc => (hc.as .boolean).bind fun s s' hs => ?_
      refine hyes.bind fun a a' ha => (ha.coerce type.base).bind fun a a' ha => ?_
      refine hno.bind fun b b' hb => (hb.coerce type.base).bind fun b b' hb => ?_
      exact ha.zip hb fun first second => hs.select first second
  | .call note .function name args resolution, serve => by
      rw [Expr.build, Expr.build]
      refine agree_buildCall name _ ?_ (Args.agree_build args fun n hn => serve n (.tail _ hn))
      rintro f index bound rfl
      exact serve _ (.head _)
  | .call note .aggregation name args resolution, serve => by
      have served : Option.Rel (Computer.Related R)
          (host.aggregation (.call note .aggregation name args resolution))
          (host'.aggregation (.call note .aggregation name args resolution)) := serve _ (.head _)
      rw [Expr.build, Expr.build]
      exact agree_served _ served

theorem Args.agree_build {host host' : Host} : ∀ args : Args,
    (∀ n ∈ args.nodes, Host.ServeRelated R host host' n) →
      List.Forall₂ (Except.Agree (Computer.Related R)) (args.build host) (args.build host')
  | .nil, _ => by
      rw [Args.build, Args.build]
      exact .nil
  | .cons _ value rest, serve => by
      rw [Args.build, Args.build]
      refine .cons (Expr.agree_build value fun n hn => serve n ?_)
        (Args.agree_build rest fun n hn => serve n ?_)
      · exact List.mem_append_left _ hn
      · exact List.mem_append_right _ hn

end

end Rowwise
