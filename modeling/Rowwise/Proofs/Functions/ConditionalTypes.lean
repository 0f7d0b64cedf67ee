import Rowwise.Proofs.Functions.Choice
import Rowwise.Proofs.Functions.Conversions
import Rowwise.Proofs.Typing.Joins

/-!
# Types of conditional forms

A choice between values is written as a call of `if`, as nested blocks, or as a call of `switch`.
Each form is a list of branches with an expression at the end, and is accepted if the types of
these go together: a call of `if` (`Expr.infer_ifCall`) and nested blocks (`Expr.infer_ifBlocks`)
under the same condition, which is that of nested conditionals (`choiceType`).  A call of `switch`
asks for more (`Expr.infer_switchCall_ok`), so that it can be replaced by a call of `if` that
compares (`Expr.infer_ifCall_comparing`).
-/

namespace Rowwise

open Eval Typing

/-! ## The type rules -/

namespace Functions

/-- Pairs in a row, and a last element. -/
def interleave {α : Type} (ps : List (α × α)) (last : α) : List α :=
  ps.flatMap (fun p => [p.1, p.2]) ++ [last]

theorem pairUp_interleave {α : Type} (ps : List (α × α)) (last : α) :
    pairUp (interleave ps last) = (ps, some last) := by
  induction ps with
  | nil => rfl
  | cons p ps ih =>
      change pairUp (p.1 :: p.2 :: interleave ps last) = _
      rw [pairUp, ih]

section Rules

variable {ps : List (ValueType × ValueType)} {types : List ValueType} {number : Nat}

theorem checkConditions_ok_iff :
    checkConditions number types = .ok () ↔ ∀ t ∈ types, t.base = some .boolean := by
  refine ⟨checkConditions_ok, fun conditions => ?_⟩
  induction types generalizing number with
  | nil => rfl
  | cons t rest ih =>
      obtain ⟨first, rest⟩ := List.forall_mem_cons.mp conditions
      rw [checkConditions, if_pos first, ih rest]

theorem checkCases_ok_iff {expected : ValueType} :
    checkCases expected number types = .ok () ↔ ∀ t ∈ types, t = expected := by
  induction types generalizing number with
  | nil => exact iff_of_true rfl fun _ h => absurd h List.not_mem_nil
  | cons t rest ih =>
      rw [checkCases, List.forall_mem_cons]
      by_cases h : t = expected
      · rw [if_pos h, ih, and_iff_right h]
      · rw [if_neg h]
        exact iff_of_false (fun refused => nomatch refused) fun both => h both.1

/-- The rule of `if` gives the type of nested conditionals. -/
theorem ifType_interleave (paired : ps ≠ []) (o t : ValueType) :
    ifType ⟨[("arguments", interleave ps o)]⟩ = .ok t ↔ choiceType ps o = some t := by
  have all : (Arguments.mk [("arguments", interleave ps o)]).all "arguments" = interleave ps o :=
    rfl
  have optional : (ps.map (·.1)).any (·.isOptional) = ps.any (·.1.isOptional) := by
    rw [List.any_map]
    rfl
  obtain ⟨p, rest, rfl⟩ := List.exists_cons_of_ne_nil paired
  unfold ifType
  simp only [all, pairUp_interleave, choiceType_eq, optional, ValueType.optionalForm_if]
  by_cases conditions : ∀ q ∈ p :: rest, q.1.base = some .boolean
  · have passed : checkConditions 1 ((p :: rest).map (·.1)) = .ok () :=
      checkConditions_ok_iff.mpr (List.forall_mem_map.mpr conditions)
    rw [passed, if_pos conditions, Except.ok_bind]
    cases ValueType.joinAll ((p :: rest).map (·.2) ++ [o]) with
    | none => exact iff_of_false (fun h => nomatch h) fun h => nomatch h
    | some u => exact ⟨fun h => by cases h; rfl, fun h => by cases h; rfl⟩
  · rw [if_neg conditions]
    refine iff_of_false (fun h => ?_) fun h => nomatch h
    obtain ⟨_, passed, _⟩ := Except.bind_ok h
    exact conditions (List.forall_mem_map.mp (checkConditions_ok_iff.mp passed))

/-- The rule of `switch` with something to fall back to gives the common type of all results. -/
theorem switchType_interleave (paired : ps ≠ []) (s o t : ValueType) :
    switchType ⟨[("value", [s]), ("cases", interleave ps o)]⟩ = .ok t ↔
      s.isMissing = false ∧ (∀ p ∈ ps, p.1 = s.requiredForm) ∧
        ValueType.joinAll (ps.map (·.2) ++ [o]) = some t := by
  have value : (Arguments.mk [("value", [s]), ("cases", interleave ps o)]).get? "value" = some s :=
    rfl
  have all : (Arguments.mk [("value", [s]), ("cases", interleave ps o)]).all "cases" =
      interleave ps o := rfl
  obtain ⟨p, rest, rfl⟩ := List.exists_cons_of_ne_nil paired
  unfold switchType
  simp only [value, all, pairUp_interleave]
  cases s.isMissing with
  | true => exact iff_of_false (fun h => nomatch h) fun h => nomatch h.1
  | false =>
      rw [if_neg Bool.false_ne_true, and_iff_right rfl]
      by_cases checked : ∀ q ∈ p :: rest, q.1 = s.requiredForm
      · have passed : checkCases s.requiredForm 1 ((p :: rest).map (·.1)) = .ok () :=
          checkCases_ok_iff.mpr (List.forall_mem_map.mpr checked)
        rw [passed, and_iff_right checked]
        simp only [Option.toList_some]
        cases ValueType.joinAll ((p :: rest).map (·.2) ++ [o]) with
        | none => exact iff_of_false (fun h => nomatch h) fun h => nomatch h
        | some u => exact ⟨fun h => by cases h; rfl, fun h => by cases h; rfl⟩
      · refine iff_of_false (fun h => ?_) fun h => checked h.1
        obtain ⟨_, passed, _⟩ := Except.bind_ok h
        exact checked (List.forall_mem_map.mp (checkCases_ok_iff.mp passed))

end Rules

end Functions

/-! ## Branches -/

/-- A condition with its value, or a case with its result. -/
structure Branch where
  span : Span
  condition : Expr
  value : Expr

namespace Branch

variable {ctx : TypingContext}

/-- Something that holds of both expressions. -/
def Both {α : Type} (r : Expr → α → Prop) (b : Branch) (p : α × α) : Prop :=
  r b.condition p.1 ∧ r b.value p.2

/-- The types of both. -/
abbrev Typed (ctx : TypingContext) : Branch → ValueType × ValueType → Prop :=
  Both fun e t => (e.infer ctx).2 = .ok t

/-- The arguments of a call with these branches. -/
def arguments (branches : List Branch) (otherwise : Expr) : List Expr :=
  Functions.interleave (branches.map fun b => (b.condition, b.value)) otherwise

theorem arguments_cons (b : Branch) (branches : List Branch) (otherwise : Expr) :
    arguments (b :: branches) otherwise = b.condition :: b.value :: arguments branches otherwise :=
  rfl

theorem paired_of_forall₂ {α : Type} {r : Branch → α → Prop} {branches : List Branch} {as : List α}
    (each : List.Forall₂ r branches as) (given : branches ≠ []) : as ≠ [] := by
  rintro rfl
  cases each
  exact given rfl

theorem arguments_ne_nil (branches : List Branch) (otherwise : Expr) :
    arguments branches otherwise ≠ [] := by
  cases branches <;> exact List.cons_ne_nil _ _

/-- What holds of all arguments holds of the branches and of the last one. -/
theorem forall₂_arguments {α : Type} {r : Expr → α → Prop} {branches : List Branch}
    {otherwise : Expr} {as : List α} :
    List.Forall₂ r (arguments branches otherwise) as ↔
      ∃ ps a, List.Forall₂ (Both r) branches ps ∧ r otherwise a ∧
        as = Functions.interleave ps a := by
  induction branches generalizing as with
  | nil =>
      constructor
      · rintro (_ | ⟨last, _ | _⟩)
        exact ⟨[], _, .nil, last, rfl⟩
      · rintro ⟨_, a, ⟨⟩, last, rfl⟩
        exact .cons last .nil
  | cons b branches ih =>
      rw [arguments_cons]
      constructor
      · rintro (_ | ⟨condition, _ | ⟨value, rest⟩⟩)
        obtain ⟨ps, a, each, last, rfl⟩ := ih.mp rest
        exact ⟨(_, _) :: ps, a, .cons ⟨condition, value⟩ each, last, rfl⟩
      · rintro ⟨_, a, _ | ⟨⟨condition, value⟩, each⟩, last, rfl⟩
        exact .cons condition (.cons value (ih.mpr ⟨_, a, each, last, rfl⟩))

theorem typed_arguments {branches : List Branch} {otherwise : Expr} {types : List ValueType} :
    (arguments branches otherwise).map (fun e => (e.infer ctx).2) = types.map .ok ↔
      ∃ ps u, List.Forall₂ (Typed ctx) branches ps ∧ (otherwise.infer ctx).2 = .ok u ∧
        types = Functions.interleave ps u := by
  rw [← forall₂_arguments (r := fun e t => (e.infer ctx).2 = .ok t), ← List.forall₂_eq_eq_eq,
    List.forall₂_map_left_iff, List.forall₂_map_right_iff]

end Branch

namespace Expr

/-- The call `if(c₁, v₁, …, cₙ, vₙ, e)`. -/
def ifCall (span : Span) (branches : List Branch) (otherwise : Expr) : Expr :=
  callOf span "if" (Branch.arguments branches otherwise)

/-- The blocks `if (c₁) { v₁ } else { … { e } }`. -/
def ifBlocks (otherwise : Expr) : List Branch → Expr
  | [] => otherwise
  | b :: branches =>
    .conditional { span := b.span } b.condition b.value (ifBlocks otherwise branches)

/-- The call `switch(v, k₁, r₁, …, kₙ, rₙ, d)`. -/
def switchCall (span : Span) (value : Expr) (cases : List Branch) (otherwise : Expr) : Expr :=
  callOf span "switch" (value :: Branch.arguments cases otherwise)

end Expr

/-- The comparison of a value with a case, in place of the case. -/
def Branch.comparing (value : Expr) (b : Branch) : Branch :=
  { b with condition := .binary { span := b.span } value .equal b.condition }

/-! ## Forms that were parsed -/

/-- No part of the branch has been typed. -/
def Branch.Untyped (b : Branch) : Prop := b.condition.Untyped ∧ b.value.Untyped

section Untyped

variable {branches : List Branch} {otherwise : Expr}

theorem Branch.untyped_arguments (untyped : ∀ b ∈ branches, b.Untyped) (last : otherwise.Untyped) :
    ∀ e ∈ arguments branches otherwise, e.Untyped := by
  induction branches with
  | nil => exact List.forall_mem_singleton.mpr last
  | cons b branches ih =>
      obtain ⟨first, rest⟩ := List.forall_mem_cons.mp untyped
      exact List.forall_mem_cons.mpr ⟨first.1, List.forall_mem_cons.mpr ⟨first.2, ih rest⟩⟩

theorem Branch.untyped_comparing {value : Expr} (input : value.Untyped)
    (untyped : ∀ b ∈ branches, b.Untyped) : ∀ b ∈ branches.map (comparing value), b.Untyped :=
  List.forall_mem_map.mpr fun b hb => ⟨⟨rfl, input, (untyped b hb).1⟩, (untyped b hb).2⟩

namespace Expr

theorem untyped_ifBlocks (untyped : ∀ b ∈ branches, b.Untyped) (last : otherwise.Untyped) :
    (ifBlocks otherwise branches).Untyped := by
  induction branches with
  | nil => exact last
  | cons b branches ih =>
      obtain ⟨first, rest⟩ := List.forall_mem_cons.mp untyped
      exact ⟨rfl, first.1, first.2, ih rest⟩

theorem untyped_ifCall (untyped : ∀ b ∈ branches, b.Untyped) (last : otherwise.Untyped)
    (span : Span) : (ifCall span branches otherwise).Untyped :=
  untyped_callOf (Branch.untyped_arguments untyped last) span

theorem untyped_switchCall {value : Expr} (input : value.Untyped)
    (untyped : ∀ b ∈ branches, b.Untyped) (last : otherwise.Untyped) (span : Span) :
    (switchCall span value branches otherwise).Untyped :=
  untyped_callOf (List.forall_mem_cons.mpr ⟨input, Branch.untyped_arguments untyped last⟩) span

end Expr

end Untyped

/-! ## Types -/

section Types

variable {ctx : TypingContext} {span : Span} {branches : List Branch} {otherwise : Expr}
  {t : ValueType}

/-- A block is accepted if the types of its parts go together. -/
theorem Expr.infer_block {condition yes no : Expr} :
    ((Expr.conditional { span } condition yes no).infer ctx).2 = .ok t ↔
      ∃ c y n, (condition.infer ctx).2 = .ok c ∧ (yes.infer ctx).2 = .ok y ∧
        (no.infer ctx).2 = .ok n ∧ conditionalType c y n = .ok t := by
  refine ⟨Expr.infer_conditional_ok, ?_⟩
  rintro ⟨c, y, n, hc, hy, hn, ruled⟩
  rw [Expr.infer]
  dsimp only
  rw [hc, hy, hn]
  change (settle _ (mismatched span (conditionalType c y n))).2 = _
  rw [ruled]
  rfl

/-- Both sides of a conditional can be given as values of its base. -/
theorem coercible_of_conditionalType {c y n : ValueType} (h : conditionalType c y n = .ok t) :
    Computer.coercible n t.base := by
  have typed := conditionalType_toOption c y n
  rw [h] at typed
  split at typed
  · obtain ⟨j, joined, rfl⟩ := Option.map_eq_some_iff.mp typed.symm
    rw [ValueType.base_withOptional]
    exact (Computer.coercible_of_join joined).2
  · cases typed

/-- Nested blocks have the type of nested conditionals. -/
theorem Expr.infer_ifBlocks : ((ifBlocks otherwise branches).infer ctx).2 = .ok t ↔
    ∃ ps u, List.Forall₂ (Branch.Typed ctx) branches ps ∧ (otherwise.infer ctx).2 = .ok u ∧
      choiceType ps u = some t := by
  induction branches generalizing t with
  | nil =>
      constructor
      · intro typed
        exact ⟨[], t, .nil, typed, rfl⟩
      · rintro ⟨_, u, ⟨⟩, typed, same⟩
        rw [← Option.some.inj same]
        exact typed
  | cons b branches ih =>
      rw [ifBlocks, infer_block]
      constructor
      · rintro ⟨c, v, n, condition, value, rest, ruled⟩
        obtain ⟨ps, u, each, last, nested⟩ := ih.mp rest
        refine ⟨(c, v) :: ps, u, .cons ⟨condition, value⟩ each, last, ?_⟩
        rw [choiceType, nested, Option.bind_some, ruled]
        rfl
      · rintro ⟨_, u, _ | @⟨_, p, _, ps, ⟨condition, value⟩, each⟩, last, ruled⟩
        obtain ⟨n, nested, ruled⟩ := Option.bind_eq_some_iff.mp ruled
        refine ⟨p.1, p.2, n, condition, value, ih.mpr ⟨ps, u, each, last, nested⟩, ?_⟩
        cases h : conditionalType p.1 p.2 n with
        | error e => rw [h] at ruled; cases ruled
        | ok v => rw [h] at ruled; cases ruled; rfl

/-- Two operands that an operator takes. -/
theorem Expr.infer_binary {l r : Expr} {op : BinaryOp} {u w : ValueType} (span : Span)
    (hl : (l.infer ctx).2 = .ok t) (hr : (r.infer ctx).2 = .ok u)
    (ruled : binaryType op t u = .ok w) :
    (Expr.binary { span } l op r).infer ctx =
      (.binary { span, type := some w } (l.infer ctx).1 op (r.infer ctx).1, .ok w) := by
  rw [Expr.infer]
  dsimp only
  rw [hl, hr]
  change settle _ (mismatched span (binaryType op t u)) = _
  rw [ruled]
  rfl

/-- A comparison of two values of one base is a truth value, unless the base has no equality. -/
theorem Expr.infer_comparison {value case : Expr} {s : ValueType}
    (hv : (value.infer ctx).2 = .ok s) (hk : (case.infer ctx).2 = .ok s.requiredForm)
    (zoned : s.base ≠ some .zonedDateTime) :
    (Expr.binary { span } value .equal case).infer ctx =
      (.binary { span, type := some (.required .boolean) } (value.infer ctx).1 .equal
        (case.infer ctx).1, .ok (.required .boolean)) := by
  have ruled : binaryType .equal s s.requiredForm = .ok (.required .boolean) := by
    have same : s.isEquatable s.requiredForm = true := by
      simp [ValueType.isEquatable, ValueType.requiredForm]
    unfold binaryType
    simp [BinaryOp.isArithmetic, BinaryOp.isOrdering, BinaryOp.isEquality, zoned, same]
  exact infer_binary span hv hk ruled

/-- All cases have a type that is that of each. -/
theorem Branch.typed_cases {u : ValueType} {ps : List (ValueType × ValueType)}
    (each : List.Forall₂ (Typed ctx) branches ps) (same : ∀ p ∈ ps, p.1 = u) :
    ∀ b ∈ branches, (b.condition.infer ctx).2 = .ok u := by
  induction each with
  | nil => exact fun b hb => absurd hb List.not_mem_nil
  | cons typed _ ih =>
      obtain ⟨case, rest⟩ := List.forall_mem_cons.mp same
      exact List.forall_mem_cons.mpr ⟨case ▸ typed.1, ih rest⟩

/-- With comparisons in place of the cases, the types of the cases are replaced. -/
theorem Branch.typed_comparing {value : Expr} {s : ValueType} (hv : (value.infer ctx).2 = .ok s)
    (zoned : s.base ≠ some .zonedDateTime) {ps : List (ValueType × ValueType)}
    (each : List.Forall₂ (Typed ctx) branches ps) (same : ∀ p ∈ ps, p.1 = s.requiredForm) :
    List.Forall₂ (Typed ctx) (branches.map (comparing value))
      (ps.map fun p => (.required .boolean, p.2)) := by
  induction each with
  | nil => exact .nil
  | @cons b _ _ _ typed _ ih =>
      obtain ⟨case, rest⟩ := List.forall_mem_cons.mp same
      have compared : ((comparing value b).condition.infer ctx).2 = .ok (.required .boolean) :=
        congrArg Prod.snd (Expr.infer_comparison hv (case ▸ typed.1) zoned)
      exact .cons ⟨compared, typed.2⟩ (ih rest)

end Types

namespace Functions

theorem exists_if : ∃ f, library.get? "if" = some f ∧
    f.overloads = [⟨[.variadic "arguments" .anything], ifType, ifBuilder⟩] :=
  ⟨_, library_get? (f := control[0]) (by simp [builtIns, control]), rfl⟩

/-- The values that `switch` takes. -/
abbrev switchable : Matcher := ((Matcher.kind .integer).or (.kind .string)).orMissing

theorem exists_switch : ∃ f, library.get? "switch" = some f ∧ f.overloads =
    [⟨[.required "value" switchable, .variadic "cases" .anything], switchType, switchBuilder⟩] :=
  ⟨_, library_get? (f := control[1]) (by simp [builtIns, control]), rfl⟩

theorem base_of_switchable {s : ValueType} (accepts : switchable.accepts s = true) :
    s.base ≠ some .zonedDateTime := by
  intro zoned
  cases s with
  | missing => cases zoned
  | of k o =>
      cases zoned
      cases accepts

end Functions

open Functions

/-! ## Accepted calls -/

section Calls

variable {ctx : TypingContext} {branches : List Branch} {value otherwise : Expr} {t : ValueType}
  (functions : ctx.functions = library) (given : branches ≠ []) (span : Span)
include functions given

/-- A call of `if` has the type of nested conditionals. -/
theorem Expr.infer_ifCall : ((ifCall span branches otherwise).infer ctx).2 = .ok t ↔
    ∃ ps u, List.Forall₂ (Branch.Typed ctx) branches ps ∧ (otherwise.infer ctx).2 = .ok u ∧
      choiceType ps u = some t := by
  obtain ⟨f, found, only⟩ := exists_if
  rw [← functions] at found
  rw [ifCall, infer_variadic found only (Branch.arguments_ne_nil branches otherwise)]
  constructor
  · rintro ⟨types, typed, ruled⟩
    obtain ⟨ps, u, each, last, rfl⟩ := Branch.typed_arguments.mp typed
    have paired := Branch.paired_of_forall₂ each given
    exact ⟨ps, u, each, last, (ifType_interleave paired u t).mp ruled⟩
  · rintro ⟨ps, u, each, last, ruled⟩
    have paired := Branch.paired_of_forall₂ each given
    exact ⟨_, Branch.typed_arguments.mpr ⟨ps, u, each, last, rfl⟩,
      (ifType_interleave paired u t).mpr ruled⟩

/-- The cases have the type of the value, without MISSING, and the results a common type. -/
theorem Expr.infer_switchCall_ok (accepted :
    ((switchCall span value branches otherwise).infer ctx).2 = .ok t) :
    ∃ s ps u, (value.infer ctx).2 = .ok s ∧ List.Forall₂ (Branch.Typed ctx) branches ps ∧
      (otherwise.infer ctx).2 = .ok u ∧ s.base ≠ some .zonedDateTime ∧
      (∀ p ∈ ps, p.1 = s.requiredForm) ∧ ValueType.joinAll (ps.map (·.2) ++ [u]) = some t := by
  obtain ⟨f, found, only⟩ := exists_switch
  rw [← functions] at found
  obtain ⟨s, types, hs, typed, accepts, ruled⟩ := (infer_required_variadic found only (by decide)
    (Branch.arguments_ne_nil branches otherwise) span).mp accepted
  obtain ⟨ps, u, each, last, rfl⟩ := Branch.typed_arguments.mp typed
  have paired := Branch.paired_of_forall₂ each given
  obtain ⟨_, same, joined⟩ := (switchType_interleave paired s u t).mp ruled
  exact ⟨s, ps, u, hs, each, last, base_of_switchable accepts, same, joined⟩

/-- A call of `switch` can be replaced by a call of `if` that compares the value with the cases. -/
theorem Expr.infer_ifCall_comparing (accepted :
    ((switchCall span value branches otherwise).infer ctx).2 = .ok t) (span' : Span) :
    ((ifCall span' (branches.map (Branch.comparing value)) otherwise).infer ctx).2 = .ok t := by
  obtain ⟨s, ps, u, hs, each, last, zoned, same, joined⟩ :=
    infer_switchCall_ok functions given span accepted
  rw [infer_ifCall functions (by simpa using given)]
  refine ⟨_, u, Branch.typed_comparing hs zoned each same, last, ?_⟩
  rw [choiceType_required]
  exact joined

end Calls

end Rowwise
