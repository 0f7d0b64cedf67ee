import Rowwise.Evaluation.Build
import Rowwise.Proofs.Evaluation.OperatorSoundness

/-!
# How it is found out that a value is missing

Before a value is computed, its computer is asked whether it is missing, and that question can fail.
The computer of an operator puts it to its operands one after the other, so that a first operand
that fails decides over a second one that is missing.  `Operator.isMissing_of_binary` says in which
order the operands of arithmetic are asked (`Operator.inOrder`), and `Computer.Awaits` what follows
for the value: it is missing if the first operand is, and if the second one is unless asking the
first one fails.

A computer is *settled* at a moment if the question is answered there.  Most ways to put computers
together ask their parts and compute nothing, so that the whole is settled where the parts are.
The exceptions compute to find out: `and`, `or` and conditionals here, and some functions.  An
expression without these is settled where what the host serves to it is: `Expr.ensures_build`.
-/

namespace Rowwise

open Eval

variable {α β γ : Type} {m : Moment} {log : WarningLog}

/-! ## One question after the other -/

namespace Eval

variable {a b : Eval Bool}

/-- Whether one of two questions is answered with yes; the second one is asked after a no only. -/
def either (a b : Eval Bool) : Eval Bool := do
  if ← a then pure true else b

theorem either_of_first (h : a.Answers m (.ok true)) : (a.either b).Answers m (.ok true) :=
  h.bind (answers_pure true)

/-- A yes to the second question is the answer to both, unless the first one fails. -/
theorem either_of_second (h : b.Answers m (.ok true)) (log : WarningLog) :
    ((a.either b).at_ m log).1 = (a.at_ m log).1.map fun _ => true := by
  unfold either
  rw [at_bind]
  rcases a.at_ m log with ⟨e | first, log'⟩
  · rfl
  · cases first with
    | true => rfl
    | false => exact h log'

theorem either_answers {x y : Bool} (ha : a.Answers m (.ok x)) (hb : b.Answers m (.ok y)) :
    ∃ z, (a.either b).Answers m (.ok z) := by
  cases x with
  | true => exact ⟨true, either_of_first ha⟩
  | false => exact ⟨y, ha.bind hb⟩

end Eval

namespace Computer

variable {c d x : Computer}

/-- Reading a value begins with the question whether it is missing. -/
theorem exists_value_eq (c : Computer) : ∃ present : Eval Value,
    c.value = c.isMissing >>= fun gone => if gone then pure .missing else present := by
  cases c with
  | missing => exact ⟨pure .missing, rfl⟩
  | of k s => exact ⟨Value.of k <$> s.compute, rfl⟩

/-- The value is missing where the question is answered with yes. -/
theorem value_missing_iff :
    c.value.Answers m (.ok .missing) ↔ c.isMissing.Answers m (.ok true) := by
  constructor
  · intro missing log
    have answer := missing log
    cases c with
    | missing => rfl
    | of k s =>
        rw [value, at_bind] at answer
        show (s.isMissing.at_ m log).1 = _
        rcases asked : s.isMissing.at_ m log with ⟨e | gone, log'⟩ <;> rw [asked] at answer
        · cases answer
        · cases gone with
          | true => rfl
          | false =>
              -- What is computed is a value of the kind, or there is none.
              simp only [Bool.false_eq_true, if_false, map_eq_pure_bind, at_bind] at answer
              rcases computed : s.compute.at_ m log' with ⟨e | a, log''⟩ <;>
                rw [computed] at answer <;> cases answer
  · intro gone
    obtain ⟨present, value⟩ := c.exists_value_eq
    rw [value]
    exact gone.bind (answers_pure _)

/-- What the value is where the question fails or is answered with yes. -/
theorem at_value {r : Except EvalError Bool}
    (asked : (c.isMissing.at_ m log).1 = r.map fun _ => true) :
    (c.value.at_ m log).1 = r.map fun _ => .missing := by
  obtain ⟨present, value⟩ := c.exists_value_eq
  rw [value, at_bind]
  rcases at_log : c.isMissing.at_ m log with ⟨e | gone, log'⟩ <;> rw [at_log] at asked
  · cases r with
    | error e =>
        cases asked
        rfl
    | ok b => cases asked
  · cases r with
    | error e => cases asked
    | ok b =>
        cases asked
        rfl

/-- The question of one computer is that of two others, which are asked one after the other. -/
def Awaits (x c d : Computer) : Prop := x.isMissing = c.isMissing.either d.isMissing

namespace Awaits

theorem missing_of_first (h : x.Awaits c d) (first : c.value.Answers m (.ok .missing)) :
    x.value.Answers m (.ok .missing) := by
  rw [value_missing_iff] at first ⊢
  rw [Awaits] at h
  rw [h]
  exact either_of_first first

/-- Where the second one is missing, asking the first one decides: the whole is missing, or it fails
with the same error. -/
theorem at_value_of_second (h : x.Awaits c d) (second : d.value.Answers m (.ok .missing))
    (log : WarningLog) :
    (x.value.at_ m log).1 = (c.isMissing.at_ m log).1.map fun _ => .missing := by
  refine at_value ?_
  rw [Awaits] at h
  rw [h]
  exact either_of_second (value_missing_iff.mp second) log

end Awaits

theorem notDuration_of_as {k : Kind} {s : Source k.Carrier} (h : c.as k = .ok s)
    (number : k.isDuration = false) : c.base.any Kind.isDuration = false := by
  cases c with
  | missing => rfl
  | of l t =>
      rw [as] at h
      split at h
      · next same => exact same ▸ number
      · cases h

theorem notDuration_of_asFloat {s : Source Float} (h : c.asFloat = .ok s) :
    c.base.any Kind.isDuration = false := by
  cases c with
  | missing => rfl
  | of l t => cases l <;> first | rfl | cases h

end Computer

/-! ## The order in which operands are asked -/

namespace Operator

/-- Whether the right operand is asked before the left one: where a number is multiplied by a
duration. -/
def asksRightFirst (op : BinaryOp) (left right : Base) : Bool :=
  op == .multiply && left == some .integer && right.any Kind.isDuration

/-- Two operands in the order in which they are asked whether they are missing. -/
def inOrder (base : α → Base) (op : BinaryOp) (left right : α) : α × α :=
  if asksRightFirst op (base left) (base right) then (right, left) else (left, right)

variable {op : BinaryOp} {output : Base} {l r x : Computer}

theorem inOrder_of_number (number : r.base.any Kind.isDuration = false) :
    inOrder Computer.base op l r = (l, r) := by
  simp only [inOrder, asksRightFirst, number, Bool.and_false, Bool.false_eq_true, if_false]

theorem isMissing_of_integers {a b s : Source Int64} (h : integers op a b = .ok s) :
    s.isMissing = a.isMissing.either b.isMissing := by
  cases op <;> cases h <;> rfl

theorem isMissing_of_floats {a b s : Source Float} (h : floats op a b = .ok s) :
    s.isMissing = a.isMissing.either b.isMissing := by
  cases op <;> cases h <;> rfl

theorem isMissing_of_temporal (h : temporal op output l r = .ok x) :
    x.Awaits (inOrder Computer.base op l r).1 (inOrder Computer.base op l r).2 := by
  unfold temporal at h
  split at h <;> cases h <;> rfl

/-- Arithmetic asks both operands before it computes anything. -/
theorem isMissing_of_binary (arithmetic : op.isArithmetic) (text : output ≠ some .string)
    (h : binary op output l r = .ok x) :
    x.Awaits (inOrder Computer.base op l r).1 (inOrder Computer.base op l r).2 := by
  cases builds_of_binary h with
  | fallback operator => cases operator; cases arithmetic
  | ordering operator | equality operator | logical operator =>
      cases op <;> cases operator <;> cases arithmetic
  | integers left right computed =>
      rw [inOrder_of_number (Computer.notDuration_of_as right rfl), Computer.Awaits,
        ← Computer.isMissing_of_as left, ← Computer.isMissing_of_as right]
      exact isMissing_of_integers computed
  | floats left right computed =>
      rw [inOrder_of_number (Computer.notDuration_of_asFloat right), Computer.Awaits,
        ← Computer.isMissing_of_asFloat left, ← Computer.isMissing_of_asFloat right]
      exact isMissing_of_floats computed
  | texts => exact absurd rfl text
  | temporal _ _ _ _ computed => exact isMissing_of_temporal computed

end Operator

/-! ## Sources that are settled -/

/-- At the moment, it is answered whether the value is missing. -/
def Source.Settled (m : Moment) (s : Source α) : Prop := ∃ gone, s.isMissing.Answers m (.ok gone)

namespace Source

variable {s : Source α} {t : Source β}

theorem present_settled (c : Eval α) : (present c).Settled m := ⟨false, answers_pure false⟩

theorem missing_settled : (missing : Source α).Settled m := ⟨true, answers_pure true⟩

theorem Settled.map (h : s.Settled m) (f : α → β) : (s.map f).Settled m := h

theorem Settled.tryMap (h : s.Settled m) (f : α → Eval β) : (s.tryMap f).Settled m := h

/-- A source that asks two others is settled where they are. -/
theorem Settled.either {u : Source γ} (hs : s.Settled m) (ht : t.Settled m)
    (asks : u.isMissing = s.isMissing.either t.isMissing) : u.Settled m := by
  obtain ⟨x, hx⟩ := hs
  obtain ⟨y, hy⟩ := ht
  rw [Settled, asks]
  exact either_answers hx hy

theorem Settled.combine (hs : s.Settled m) (ht : t.Settled m) (f : α → β → Eval γ) :
    (s.combine f t).Settled m := hs.either ht rfl

theorem Settled.fallback {t : Source α} (hs : s.Settled m) (ht : t.Settled m) :
    (s.fallback t).Settled m := by
  obtain ⟨first, hs⟩ := hs
  obtain ⟨second, ht⟩ := ht
  cases first with
  | true => exact ⟨second, hs.bind ht⟩
  | false => exact ⟨false, hs.bind (answers_pure false)⟩

end Source

/-! ## Computers that are settled -/

/-- At the moment, it is answered whether the value is missing. -/
def Computer.Settled (m : Moment) (c : Computer) : Prop := ∃ gone, c.isMissing.Answers m (.ok gone)

namespace Computer

variable {c d : Computer}

theorem Settled.of {k : Kind} {s : Source k.Carrier} (h : s.Settled m) :
    (Computer.of k s).Settled m := h

theorem missing_settled : Computer.missing.Settled m := ⟨true, answers_pure true⟩

theorem constant_settled (v : Value) : (constant v).Settled m := by
  cases v with
  | missing => exact missing_settled
  | of k a => exact .of (Source.present_settled _)

theorem missingOf_settled (base : Base) : (missingOf base).Settled m := by
  cases base with
  | none => exact missing_settled
  | some k => exact .of Source.missing_settled

/-- A computer over cells never fails to answer. -/
theorem ofCells_settled (base : Base) (read : Nat → Value) : (ofCells base read).Settled m := by
  cases base with
  | none => exact missing_settled
  | some k => exact ⟨_, answers_moment.bind (answers_pure _)⟩

theorem Settled.as (h : c.Settled m) (k : Kind) : Except.Ensures (Source.Settled m) (c.as k) := by
  intro s hs
  rw [Source.Settled, isMissing_of_as hs]
  exact h

theorem Settled.asFloat (h : c.Settled m) : Except.Ensures (Source.Settled m) c.asFloat := by
  intro s hs
  rw [Source.Settled, isMissing_of_asFloat hs]
  exact h

theorem Settled.coerce (h : c.Settled m) (target : Base) :
    Except.Ensures (Settled m) (c.coerce target) := by
  unfold Computer.coerce
  split
  · exact .ok h
  split
  · exact .ok (missingOf_settled _)
  · exact .ok h
  · exact .error _

/-- Two computers are put together to a settled one by an operation that keeps sources so. -/
theorem Settled.zip {f : {α : Type} → Source α → Source α → Source α} (hc : c.Settled m)
    (hd : d.Settled m)
    (hf : ∀ {α : Type} {s t : Source α}, s.Settled m → t.Settled m → (f s t).Settled m) :
    Except.Ensures (Settled m) (zip f c d) := by
  unfold Computer.zip
  split
  · exact .ok missing_settled
  · split
    · next same =>
        subst same
        exact .ok (.of (hf hc hd))
    · exact .error _
  · exact .error _

theorem Awaits.settled {x : Computer} (h : x.Awaits c d) (hc : c.Settled m) (hd : d.Settled m) :
    x.Settled m := by
  obtain ⟨_, hc⟩ := hc
  obtain ⟨_, hd⟩ := hd
  rw [Awaits] at h
  rw [Settled, h]
  exact either_answers hc hd

/-- Where the first one is settled and the second one is missing, the whole is missing. -/
theorem Awaits.missing_of_second {x : Computer} (h : x.Awaits c d) (first : c.Settled m)
    (second : d.value.Answers m (.ok .missing)) : x.value.Answers m (.ok .missing) := by
  obtain ⟨gone, first⟩ := first
  intro log
  rw [h.at_value_of_second second, first log]
  rfl

theorem anyMissing_answers {cs : List Computer} (h : ∀ c ∈ cs, c.Settled m) :
    ∃ gone, (anyMissing cs).Answers m (.ok gone) := by
  induction cs with
  | nil => exact ⟨false, answers_pure false⟩
  | cons c cs ih =>
      obtain ⟨⟨_, first⟩, rest⟩ := List.forall_mem_cons.mp h
      obtain ⟨_, rest⟩ := ih rest
      exact either_answers first rest

end Computer

/-- A result that is missing with its inputs is settled where they are. -/
theorem Source.propagating_settled {inputs : List Computer} (h : ∀ c ∈ inputs, c.Settled m)
    (compute : Eval α) : (Source.propagating inputs compute).Settled m :=
  Computer.anyMissing_answers h

/-! ## Operators -/

namespace Operator

variable {op : BinaryOp} {output : Base} {c l r : Computer}

theorem ensures_unary (op : UnaryOp) (h : c.Settled m) :
    Except.Ensures (Computer.Settled m) (unary op c) := by
  unfold unary
  split
  all_goals first | exact .ok h | exact .error _

theorem ensures_temporal (hl : l.Settled m) (hr : r.Settled m) :
    Except.Ensures (Computer.Settled m) (temporal op output l r) := by
  intro x built
  have asked := isMissing_of_temporal built
  unfold inOrder at asked
  split at asked
  · exact asked.settled hr hl
  · exact asked.settled hl hr

/-- `and` and `or` apart, operators ask no more of their operands than whether they are missing. -/
theorem ensures_binary (logical : op.isLogical = false) (hl : l.Settled m) (hr : r.Settled m) :
    Except.Ensures (Computer.Settled m) (binary op output l r) := by
  intro x built
  cases builds_of_binary built with
  | fallback _ left right zipped =>
      exact (hl.coerce output _ left).zip (hr.coerce output _ right) (fun hs ht => hs.fallback ht)
        _ zipped
  | ordering _ computed =>
      -- Comparisons with MISSING have a result, so that nobody is asked.
      obtain ⟨compared, _, present⟩ := Except.bind_ok computed
      cases present
      exact .of (Source.present_settled _)
  | equality => exact .of (Source.present_settled _)
  | logical operator => exact absurd operator (by simp [logical])
  | integers left right computed =>
      exact .of ((hl.as .integer _ left).either (hr.as .integer _ right)
        (isMissing_of_integers computed))
  | floats left right computed =>
      exact .of ((hl.asFloat _ left).either (hr.asFloat _ right) (isMissing_of_floats computed))
  | texts =>
      have left : l.textSource.Settled m := Source.present_settled _
      exact .of (left.combine (Source.present_settled _) _)
  | temporal _ _ _ _ computed => exact ensures_temporal hl hr x computed

end Operator

/-! ## Functions and trees -/

/-- From arguments that are settled, the builder gets to a computer that is. -/
def Builder.Settles (m : Moment) (build : Builder) : Prop :=
  ∀ args type, (∀ c ∈ args.values, c.Settled m) →
    Except.Ensures (Computer.Settled m) (build args type)

/-- The builders of all overloads keep computers settled. -/
def Function.Settles (m : Moment) (f : Function) : Prop := ∀ o ∈ f.overloads, o.build.Settles m

/-- What the host serves to a node is settled at the moment, and the node itself computes nothing to
find out whether its value is missing. -/
def Host.Settles (m : Moment) (host : Host) : Expr → Prop
  | .column _ ref => ∀ c, host.column ref = some c → c.Settled m
  | .flowVariable _ name => ∀ c, host.flowVariable name = some c → c.Settled m
  | e@(.call _ .aggregation _ _ _) => ∀ c, host.aggregation e = some c → c.Settled m
  | .call _ .function _ _ (some (.function f _ _)) => f.Settles m
  | .binary _ _ op _ => op.isLogical = false
  | .conditional .. => False
  | _ => True

/-- What arguments are mapped to one by one has what each of them is mapped to. -/
theorem Arguments.ensures_mapExcept {ε : Type} {P : β → Prop} {f : α → Except ε β}
    (bound : Arguments α) (h : ∀ a, Except.Ensures P (f a)) :
    Except.Ensures (fun given => ∀ b ∈ given.values, P b) (bound.mapExcept f) := by
  unfold Arguments.mapExcept
  refine .bind (P := fun slots : List (String × List β) => ∀ slot ∈ slots, ∀ b ∈ slot.2, P b)
    (.mapM ?_) fun slots hslots => .ok fun b hb => ?_
  · rintro ⟨name, as⟩ _
    exact (Except.Ensures.mapM fun a _ => h a).bind fun bs hbs => .ok hbs
  · obtain ⟨slot, member, hb⟩ := List.mem_flatMap.mp hb
    exact hslots slot member b hb

namespace Evaluation

theorem ensures_buildCall (name : String) {resolution : Option Resolution}
    {args : List (Except EvalError Computer)} (type : Except EvalError ValueType)
    (functions : ∀ f index bound, resolution = some (.function f index bound) → f.Settles m)
    (h : ∀ c ∈ args, Except.Ensures (Computer.Settled m) c) :
    Except.Ensures (Computer.Settled m) (buildCall name resolution args type) := by
  unfold buildCall
  split
  · next f index bound =>
      refine (bound.ensures_mapExcept (P := Computer.Settled m) fun b => ?_).bind fun given hg => ?_
      · cases b with
        | default v => exact .ok (Computer.constant_settled v)
        | argument i =>
            dsimp only
            split
            · next c found => exact h c (List.mem_of_getElem? found)
            · exact .error _
      · split
        · next o chosen =>
            refine .after _ fun t => ?_
            exact functions f index bound rfl o (List.mem_of_getElem? chosen) given t hg
        · exact .error _
  · exact .error _

end Evaluation

open Evaluation in
mutual

/-- The computer of an expression is settled where what its host serves to it is, if no node of it
computes anything to find out whether its value is missing. -/
theorem Expr.ensures_build {host : Host} : ∀ e : Expr, (∀ n ∈ e.nodes, host.Settles m n) →
    Except.Ensures (Computer.Settled m) (e.build host)
  | .constant _ c, _ => by
      rw [Expr.build]
      exact .ok (Computer.constant_settled _)
  | .column _ ref, settles => by
      rw [Expr.build]
      split
      · next c served => exact .ok (settles _ (.head _) c served)
      · exact .error _
  | .flowVariable _ name, settles => by
      rw [Expr.build]
      split
      · next c served => exact .ok (settles _ (.head _) c served)
      · exact .error _
  | .unary _ op arg, settles => by
      rw [Expr.build]
      refine (Expr.ensures_build arg fun n hn => settles n (.tail _ hn)).bind fun c hc => ?_
      exact Operator.ensures_unary op hc
  | .binary note left op right, settles => by
      rw [Expr.build]
      have hl := Expr.ensures_build left fun n hn => settles n (.tail _ (List.mem_append_left _ hn))
      have hr := Expr.ensures_build right fun n hn =>
        settles n (.tail _ (List.mem_append_right _ hn))
      refine .after _ fun type => hl.bind fun l hl => hr.bind fun r hr => ?_
      exact Operator.ensures_binary (settles _ (.head _)) hl hr
  | .conditional .., settles => (settles _ (.head _)).elim
  | .call note .function name args resolution, settles => by
      rw [Expr.build]
      -- What an argument says of itself is settled before the function is asked.
      have given := Args.ensures_build args fun n hn => settles n (.tail _ hn)
      refine ensures_buildCall name _ ?_ given
      rintro f index bound rfl
      exact settles _ (.head _)
  | .call note .aggregation name args resolution, settles => by
      rw [Expr.build]
      split
      · next c served => exact .ok (settles _ (.head _) c served)
      · exact .error _

theorem Args.ensures_build {host : Host} : ∀ args : Args, (∀ n ∈ args.nodes, host.Settles m n) →
    ∀ c ∈ args.build host, Except.Ensures (Computer.Settled m) c
  | .nil, _ => by simp [Args.build]
  | .cons _ value rest, settles => by
      rw [Args.build]
      refine List.forall_mem_cons.mpr ⟨?_, ?_⟩
      · exact Expr.ensures_build value fun n hn => settles n (List.mem_append_left _ hn)
      · exact Args.ensures_build rest fun n hn => settles n (List.mem_append_right _ hn)

end

end Rowwise
