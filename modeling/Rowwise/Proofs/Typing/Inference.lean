import Rowwise.Proofs.Typing.WellTyped

/-!
# What typing leaves behind

Typing a coherent tree leaves a coherent tree behind, whether it is accepted or not, and a
well-typed one if it is accepted.  Hence a tree that is accepted after any history of typings is
well-typed: `Expr.wellTyped_of_infer`.

A node is accepted with the type that is noted at it, and a type that is noted stays.  That is
what keeps a binding of an earlier typing right: the arguments have the types that it was made
for, so that the same overload binds them in the same way.
-/

namespace Rowwise

open Typing

variable {ctx : TypingContext} {contexts : List TypingContext}

/-! ## Noting the type of a node -/

@[simp] theorem Expr.withNote_note (e : Expr) : e.withNote e.note = e := by cases e <;> rfl

@[simp] theorem Expr.note_withNote (note : Note) (e : Expr) : (e.withNote note).note = note := by
  cases e <;> rfl

@[simp] theorem Expr.withNote_withNote (note note' : Note) (e : Expr) :
    (e.withNote note).withNote note' = e.withNote note' := by
  cases e <;> rfl

namespace Typing

/-- Settling a node changes nothing but its note. -/
theorem settle_fst (e : Expr) (r : Inferred) : ∃ note, (settle e r).1 = e.withNote note := by
  cases r with
  | error es => exact ⟨e.note, e.withNote_note.symm⟩
  | ok t =>
      cases h : e.type? with
      | none => exact ⟨_, by rw [settle, h]⟩
      | some s =>
          refine ⟨e.note, ?_⟩
          rw [Expr.withNote_note, settle, h]
          dsimp only
          split <;> rfl

@[simp] theorem note_span_settle (e : Expr) (r : Inferred) :
    (settle e r).1.note.span = e.note.span := by
  cases r with
  | error es => rfl
  | ok t =>
      rw [settle]
      cases e.type? with
      | none => rw [Expr.note_withNote]
      | some s =>
          dsimp only
          split <;> rfl

/-- A node that is settled with a type has it noted. -/
theorem settle_ok {e : Expr} {r : Inferred} {t : ValueType} (h : (settle e r).2 = .ok t) :
    r = .ok t ∧ (settle e r).1 = e.withNote { e.note with type := some t } := by
  cases r with
  | error es => cases h
  | ok s =>
      cases ht : e.type? with
      | none =>
          rw [settle, ht] at h ⊢
          cases h
          exact ⟨rfl, rfl⟩
      | some u =>
          rw [settle, ht] at h ⊢
          dsimp only at h ⊢
          by_cases hu : u = s
          · rw [if_pos hu] at h ⊢
            cases h
            have noted : e.note = { e.note with type := some t } := by rw [← hu, ← ht]; rfl
            refine ⟨rfl, ?_⟩
            rw [← noted, Expr.withNote_note]
          · rw [if_neg hu] at h
            cases h

/-- Settling reports something if it fails. -/
theorem settle_honest {e : Expr} {r : Inferred} (h : r ≠ .error []) : (settle e r).2 ≠ .error [] := by
  cases r with
  | error es => exact h
  | ok s =>
      rw [settle]
      cases e.type? with
      | none => simp
      | some u =>
          dsimp only
          split <;> simp [disagreement, fault]

theorem settle_type? {e : Expr} (r : Inferred) {t : ValueType} (h : e.type? = some t) :
    (settle e r).1.type? = some t := by
  cases r with
  | error es => exact h
  | ok s =>
      rw [settle, h]
      dsimp only
      split <;> exact h

end Typing

/-- Typing a node ends with settling it. -/
theorem Expr.infer_eq_settle (ctx : TypingContext) (e : Expr) :
    ∃ e' r, e.infer ctx = settle e' r ∧ e'.note = e.note := by
  cases e with
  | constant note c => exact ⟨_, _, rfl, rfl⟩
  | column note ref => exact ⟨_, _, rfl, rfl⟩
  | flowVariable note name => exact ⟨_, _, rfl, rfl⟩
  | unary note op arg => exact ⟨.unary note op _, _, rfl, rfl⟩
  | binary note left op right => exact ⟨.binary note _ op _, _, rfl, rfl⟩
  | conditional note condition yes no => exact ⟨.conditional note _ _ _, _, rfl, rfl⟩
  | call note callee name args resolution =>
      cases callee with
      | function => exact ⟨.call note .function name _ _, _, rfl, rfl⟩
      | aggregation =>
          rw [Expr.infer]
          split
          · next h => exact ⟨.call note .aggregation name args resolution, .error _, rfl, rfl⟩
          · exact ⟨.call note .aggregation name _ _, _, rfl, rfl⟩

/-- A type that is noted stays. -/
theorem Expr.type?_infer {e : Expr} {t : ValueType} (h : e.type? = some t) :
    (e.infer ctx).1.type? = some t := by
  obtain ⟨e', r, he, hn⟩ := e.infer_eq_settle ctx
  rw [he]
  exact settle_type? r (by rw [Expr.type?, hn]; exact h)

/-- A node that is accepted has its type noted. -/
theorem Expr.type?_of_infer {e : Expr} {t : ValueType} (h : (e.infer ctx).2 = .ok t) :
    (e.infer ctx).1.type? = some t := by
  obtain ⟨e', r, he, _⟩ := e.infer_eq_settle ctx
  rw [he] at h ⊢
  rw [(settle_ok h).2, Expr.type?, Expr.note_withNote]

/-! ## The arguments of a call -/

namespace Args

@[simp] theorem types?_nil : Args.nil.types? = [] := rfl

@[simp] theorem types?_cons (name : Option String) (value : Expr) (rest : Args) :
    (Args.cons name value rest).types? = value.type? :: rest.types? := rfl

@[simp] theorem names_nil : Args.nil.names = [] := rfl

@[simp] theorem names_cons (name : Option String) (value : Expr) (rest : Args) :
    (Args.cons name value rest).names = name :: rest.names := rfl

theorem names_infer (ctx : TypingContext) : ∀ args : Args, (args.infer ctx).1.names = args.names
  | .nil => rfl
  | .cons name value rest => by
      rw [Args.infer]
      simp only [names_cons, names_infer ctx rest]

theorem types?_infer : ∀ {args : Args} {types : List ValueType},
    args.types? = types.map some → (args.infer ctx).1.types? = types.map some
  | .nil, types, h => h
  | .cons name value rest, [], h => by simp at h
  | .cons name value rest, t :: types, h => by
      simp only [types?_cons, List.map_cons, List.cons.injEq] at h
      rw [Args.infer]
      simp only [types?_cons, List.map_cons, Expr.type?_infer h.1, types?_infer h.2]

theorem types?_of_infer : ∀ {args : Args} {types : List ValueType},
    (args.infer ctx).2 = types.map .ok → (args.infer ctx).1.types? = types.map some
  | .nil, types, h => by
      cases types with
      | nil => rfl
      | cons => simp [Args.infer] at h
  | .cons name value rest, [], h => by simp [Args.infer] at h
  | .cons name value rest, t :: types, h => by
      rw [Args.infer] at h ⊢
      simp only [List.map_cons, List.cons.injEq] at h
      simp only [types?_cons, List.map_cons, Expr.type?_of_infer h.1, types?_of_infer h.2]

end Args

namespace Typing

/-! ## Rules that report something if they fail -/

theorem mismatched_ok {span : Span} {x : Except String ValueType} {t : ValueType}
    (h : mismatched span x = .ok t) : x = .ok t := by
  cases x with
  | ok s =>
      cases h
      rfl
  | error => cases h

theorem mismatched_honest (span : Span) (x : Except String ValueType) :
    mismatched span x ≠ .error [] := by
  cases x <;> simp [mismatched, fault]

theorem resolved_ok {kind : CompileErrorKind} {span : Span} {x : Except Unresolved ValueType}
    {t : ValueType} (h : resolved kind span x = .ok t) : x = .ok t := by
  cases x with
  | ok s =>
      cases h
      rfl
  | error e => cases e <;> cases h

theorem resolved_honest (kind : CompileErrorKind) (span : Span) (x : Except Unresolved ValueType) :
    resolved kind span x ≠ .error [] := by
  cases x with
  | ok => simp [resolved]
  | error e => cases e <;> simp [resolved, fault]

/-- Children that all report something if they fail have types if no error is left. -/
theorem allTypes_ok {results : List Inferred} (honest : ∀ r ∈ results, r ≠ .error [])
    {types : List ValueType} (h : allTypes results = .ok types) : results = types.map .ok := by
  induction results generalizing types with
  | nil =>
      cases h
      rfl
  | cons r rest ih =>
      have honest_rest : ∀ r ∈ rest, r ≠ .error [] := fun r hr => honest r (.tail _ hr)
      cases r with
      | error es =>
          have : es ≠ [] := fun he => honest _ (.head _) (by rw [he])
          simp [allTypes, this] at h
      | ok t =>
          unfold allTypes at h ih
          simp only [List.flatMap_cons, List.nil_append, List.filterMap_cons] at h
          split at h
          · next hempty =>
              cases h
              rw [List.map_cons, ← ih honest_rest (if_pos hempty)]
          · cases h

theorem allTypes_honest {results : List Inferred} : allTypes results ≠ .error [] := by
  unfold allTypes
  dsimp only
  split
  · simp
  · next h =>
      intro he
      rw [Except.error.injEq] at he
      exact h (by rw [he]; rfl)

/-! ## Binding calls -/

/-- A binding that is there stays; the call is accepted if its target is the new one. -/
theorem bindCall_cases (name : String) (span : Span) (old : Option Resolution) (new : Resolution)
    (t : ValueType) :
    (old = none ∧ bindCall name span old new t = (some new, .ok t)) ∨
      (∃ r, old = some r ∧ r.sameTarget new = true ∧
        bindCall name span old new t = (some r, .ok t)) ∨
      ∃ es, es ≠ [] ∧ bindCall name span old new t = (old, .error es) := by
  cases old with
  | none => exact .inl ⟨rfl, rfl⟩
  | some r =>
      rw [bindCall]
      by_cases h : r.sameTarget new = true
      · exact .inr (.inl ⟨r, rfl, h, if_pos h⟩)
      · exact .inr (.inr ⟨_, List.cons_ne_nil _ _, if_neg h⟩)

/-- The overload that is chosen is one that applies. -/
theorem chooseOverload_ok {args : List ArgumentType} {overloads : List Overload} {start i : Nat}
    {bound : Arguments Binding} {t : ValueType}
    (h : chooseOverload args start overloads = .ok (i, bound, t)) :
    ∃ k o, i = start + k ∧ overloads[k]? = some o ∧ tryOverload o args = .ok (bound, t) := by
  induction overloads generalizing start with
  | nil => cases h
  | cons o rest ih =>
      rw [chooseOverload] at h
      cases ht : tryOverload o args with
      | ok found =>
          rw [ht] at h
          cases h
          exact ⟨0, o, rfl, rfl, ht⟩
      | error reason =>
          rw [ht] at h
          dsimp only at h
          cases hr : chooseOverload args (start + 1) rest with
          | ok found =>
              rw [hr] at h
              cases h
              obtain ⟨k, o', hi, ho, happ⟩ := ih hr
              exact ⟨k + 1, o', by omega, ho, happ⟩
          | error reasons =>
              rw [hr] at h
              cases h

/-- A call of a function is bound to an overload that applies to its arguments, or its binding is
left alone.  Which of the two it is does not depend on the binding. -/
theorem inferCall_cases (ctx : TypingContext) (name : String) (span : Span)
    (names : List (Option String)) {results : List Inferred}
    (honest : ∀ r ∈ results, r ≠ .error []) :
    (∃ es, es ≠ [] ∧ ∀ old, inferCall ctx name span names results old = (old, .error es)) ∨
      ∃ f types i o bound t, ctx.functions.get? name = some f ∧ results = types.map .ok ∧
        f.overloads[i]? = some o ∧ tryOverload o (names.zip types) = .ok (bound, t) ∧
        ∀ old, inferCall ctx name span names results old =
          bindCall name span old (.function f i bound) t := by
  unfold inferCall
  cases hf : ctx.functions.get? name with
  | none => exact .inl ⟨_, by simp, fun _ => rfl⟩
  | some f =>
      cases ht : allTypes results with
      | error es => exact .inl ⟨es, fun he => allTypes_honest (he ▸ ht), fun _ => rfl⟩
      | ok types =>
          dsimp only
          cases hc : chooseOverload (names.zip types) 0 f.overloads with
          | error reasons => exact .inl ⟨_, List.cons_ne_nil _ _, fun _ => rfl⟩
          | ok found =>
              obtain ⟨i, bound, t⟩ := found
              obtain ⟨k, o, hi, ho, happ⟩ := chooseOverload_ok hc
              rw [Nat.zero_add] at hi
              subst hi
              exact .inr ⟨f, types, i, o, bound, t, rfl, allTypes_ok honest ht, ho, happ,
                fun _ => rfl⟩

/-- If all arguments are read as literals, all of them are constants. -/
theorem constant_of_literals {name : String} {position : Nat} {args : List (Option String × Expr)}
    (h : ∀ x ∈ literals name position args, ∃ v, x = .ok v) :
    ∀ b ∈ args, ∃ note c, b.2 = .constant note c := by
  induction args generalizing position with
  | nil => exact fun b hb => absurd hb List.not_mem_nil
  | cons a rest ih =>
      obtain ⟨label, value⟩ := a
      intro b hb
      rw [List.mem_cons] at hb
      obtain rfl | hb := hb
      · cases value with
        | constant note c => exact ⟨note, c, rfl⟩
        | _ =>
            obtain ⟨v, hv⟩ := h _ (.head _)
            cases hv
      · exact ih (fun x hx => h x (.tail _ hx)) b hb

/-- So they are if none of them is reported. -/
theorem constant_of_no_error {name : String} {position : Nat} {args : List (Option String × Expr)}
    (h : ((literals name position args).filterMap fun
      | .ok _ => none
      | .error e => some e) = []) :
    ∀ b ∈ args, ∃ note c, b.2 = .constant note c := by
  have read : ∀ x ∈ literals name position args, ∃ v, x = .ok v := by
    intro x hx
    have silent : _ = none := List.filterMap_eq_nil_iff.mp h x hx
    cases x with
    | ok v => exact ⟨v, rfl⟩
    | error e => cases silent
  exact constant_of_literals read

/-- A call of an aggregation is bound as its literals say, or its binding is left alone.  Which of
the two it is does not depend on the binding. -/
theorem inferAggregation_cases (ctx : TypingContext) (a : Aggregation) (name : String) (span : Span)
    (args : List (Option String × Expr)) :
    (∃ es, es ≠ [] ∧ ∀ old, inferAggregation ctx a name span args old = (old, .error es)) ∨
      ∃ bound n column t, (∀ b ∈ args, ∃ note c, b.2 = .constant note c) ∧
        bindLiterals a name args = some bound ∧ Aggregation.columnName? bound = some n ∧
        ctx.column (.named n 0) = .ok column ∧ a.returnType column = .ok t ∧
        ∀ old, inferAggregation ctx a name span args old =
          bindCall name span old (.aggregation a column bound) t := by
  unfold inferAggregation bindLiterals
  dsimp only
  generalize herrors : (literals name 0 args).filterMap _ = errors
  cases errors with
  | cons e es => exact .inl ⟨e :: es, List.cons_ne_nil _ _, fun _ => rfl⟩
  | nil =>
      generalize bindArguments a.params _ = binding
      cases binding with
      | error failure => exact .inl ⟨_, List.cons_ne_nil _ _, fun _ => rfl⟩
      | ok bound =>
          dsimp only
          generalize bound.map _ = bound
          cases hn : Aggregation.columnName? bound with
          | none => exact .inl ⟨_, List.cons_ne_nil _ _, fun _ => rfl⟩
          | some n =>
              dsimp only
              cases hcol : ctx.column (.named n 0) with
              | error reason =>
                  cases reason <;> exact .inl ⟨_, List.cons_ne_nil _ _, fun _ => rfl⟩
              | ok column =>
                  dsimp only
                  cases ht : a.returnType column with
                  | error reason => exact .inl ⟨_, List.cons_ne_nil _ _, fun _ => rfl⟩
                  | ok t =>
                      exact .inr ⟨bound, n, column, t, constant_of_no_error herrors, rfl, hn, hcol, ht,
                        fun _ => rfl⟩

/-- Typing the arguments of a call once more leaves its binding right. -/
theorem FunctionBinding.infer {args : Args} {f : Function} {r : Resolution} {t : ValueType}
    (h : FunctionBinding args f r t) : FunctionBinding (args.infer ctx).1 f r t := by
  obtain ⟨chosen, typed, applies⟩ := h
  exact .intro chosen (Args.types?_infer typed) (by rw [Args.names_infer]; exact applies)

end Typing

/-! ## The literals of an aggregation -/

namespace Args

theorem names_noteLiterals : ∀ args : Args, args.noteLiterals.names = args.names
  | .nil => rfl
  | .cons name _ rest => congrArg (name :: ·) (names_noteLiterals rest)

theorem literals_noteLiterals (name : String) : ∀ (position : Nat) (args : Args),
    literals name position args.noteLiterals.toList = literals name position args.toList
  | _, .nil => rfl
  | position, .cons label value rest => by
      have ih := literals_noteLiterals name (position + 1) rest
      cases value <;> simp only [noteLiterals, toList, literals, ih]

theorem bindLiterals_noteLiterals (a : Aggregation) (name : String) (args : Args) :
    bindLiterals a name args.noteLiterals.toList = bindLiterals a name args.toList := by
  have names : args.noteLiterals.toList.map (·.1) = args.toList.map (·.1) := names_noteLiterals args
  rw [bindLiterals, bindLiterals, names, literals_noteLiterals]

theorem Coherent.noteLiterals : ∀ {args : Args}, args.Coherent contexts →
    args.noteLiterals.Coherent contexts
  | .nil, _ => trivial
  | .cons name value rest, h => by
      refine ⟨?_, h.2.noteLiterals⟩
      cases value with
      | constant note c =>
          have noted := h.1
          intro t ht
          cases hn : note.type with
          | none =>
              rw [hn] at ht
              cases ht
              rfl
          | some s =>
              rw [hn] at ht
              cases ht
              exact noted _ hn
      | _ => exact h.1

/-- Literals that have their types noted are well-typed. -/
theorem Coherent.wellTyped_noteLiterals : ∀ {args : Args}, args.Coherent contexts →
    (∀ b ∈ args.noteLiterals.toList, ∃ note c, b.2 = .constant note c) →
    args.noteLiterals.WellTyped ctx
  | .nil, _, _ => trivial
  | .cons name value rest, h, constants => by
      refine ⟨?_, h.2.wellTyped_noteLiterals fun b hb => constants b (.tail _ hb)⟩
      cases value with
      | constant note c =>
          have noted := h.1
          change some (note.type.getD c.valueType) = some c.valueType
          cases hn : note.type with
          | none => rfl
          | some s => rw [noted _ hn]; rfl
      | _ =>
          obtain ⟨note, c, hc⟩ := constants _ (.head _)
          cases hc

end Args

/-! ## Typing a tree -/

/-- What typing a tree leaves behind: fitting notes, an error that says something if there is
one, and all notes if there is none. -/
structure Expr.InferSound (ctx : TypingContext) (contexts : List TypingContext) (e : Expr) :
    Prop where
  coherent : (e.infer ctx).1.Coherent contexts
  honest : (e.infer ctx).2 ≠ .error []
  wellTyped : ∀ {t}, (e.infer ctx).2 = .ok t → (e.infer ctx).1.WellTyped ctx

/-- What typing the arguments of a call leaves behind. -/
structure Args.InferSound (ctx : TypingContext) (contexts : List TypingContext) (args : Args) :
    Prop where
  coherent : (args.infer ctx).1.Coherent contexts
  honest : ∀ r ∈ (args.infer ctx).2, r ≠ .error []
  wellTyped : ∀ {types : List ValueType}, (args.infer ctx).2 = types.map .ok →
    (args.infer ctx).1.WellTyped ctx

section Nodes

variable {note : Note} {name : String}

/-- The rule of a node decides, once its children are settled. -/
theorem Expr.InferSound.of_settle {e e' : Expr} {r : Inferred} (step : e.infer ctx = settle e' r)
    (coherent : ∀ note, (e'.withNote note).Coherent contexts) (honest : r ≠ .error [])
    (wellTyped : ∀ t, r = .ok t → (e'.withNote { e'.note with type := some t }).WellTyped ctx) :
    e.InferSound ctx contexts where
  coherent := by
    obtain ⟨note, hnote⟩ := settle_fst e' r
    rw [step, hnote]
    exact coherent note
  honest := by
    rw [step]
    exact settle_honest honest
  wellTyped := by
    intro t h
    rw [step] at h ⊢
    obtain ⟨hr, hnote⟩ := settle_ok h
    rw [hnote]
    exact wellTyped t hr

theorem Expr.InferSound.constant {c : Constant} (h : (Expr.constant note c).Coherent contexts) :
    (Expr.constant note c).InferSound ctx contexts where
  coherent := by
    rw [Expr.infer, settle]
    split
    · intro t ht
      cases ht
      rfl
    · split <;> exact h
  honest := by
    rw [Expr.infer]
    exact settle_honest (by simp)
  wellTyped := by
    intro t ht
    rw [Expr.infer] at ht ⊢
    obtain ⟨hr, hnote⟩ := settle_ok ht
    rw [hnote]
    cases hr
    rfl

theorem Expr.InferSound.unary {op : UnaryOp} {arg : Expr} (h : arg.InferSound ctx contexts) :
    (Expr.unary note op arg).InferSound ctx contexts := by
  refine .of_settle rfl (fun _ => h.coherent) ?_ ?_
  · cases hr : (arg.infer ctx).2 with
    | ok t => exact mismatched_honest _ _
    | error es =>
        have honest := h.honest
        rw [hr] at honest
        exact honest
  · intro t ht
    cases hr : (arg.infer ctx).2 with
    | error es => rw [hr] at ht; cases ht
    | ok a =>
        rw [hr] at ht
        exact ⟨h.wellTyped hr, a, t, Expr.type?_of_infer hr, mismatched_ok ht, rfl⟩

theorem Expr.InferSound.binary {left right : Expr} {op : BinaryOp}
    (hl : left.InferSound ctx contexts) (hr : right.InferSound ctx contexts) :
    (Expr.binary note left op right).InferSound ctx contexts := by
  have honest : ∀ r ∈ [(left.infer ctx).2, (right.infer ctx).2], r ≠ .error [] := by
    simpa using ⟨hl.honest, hr.honest⟩
  refine .of_settle rfl (fun _ => ⟨hl.coherent, hr.coherent⟩) ?_ ?_
  · cases ht : allTypes [(left.infer ctx).2, (right.infer ctx).2] with
    | ok types => exact mismatched_honest _ _
    | error es => exact fun he => allTypes_honest (ht.trans (congrArg _ (Except.error.inj he)))
  · intro t h
    cases ht : allTypes [(left.infer ctx).2, (right.infer ctx).2] with
    | error es => rw [ht] at h; cases h
    | ok types =>
        rw [ht] at h
        obtain _ | ⟨a, _ | ⟨b, _ | ⟨_, _⟩⟩⟩ := types <;> have children := allTypes_ok honest ht <;>
          simp only [List.map_cons, List.map_nil, List.cons.injEq, reduceCtorEq, and_true,
            and_false] at children
        exact ⟨hl.wellTyped children.1, hr.wellTyped children.2, a, b, t,
          Expr.type?_of_infer children.1, Expr.type?_of_infer children.2, mismatched_ok h, rfl⟩

theorem Expr.InferSound.conditional {condition yes no : Expr}
    (hc : condition.InferSound ctx contexts) (hy : yes.InferSound ctx contexts)
    (hn : no.InferSound ctx contexts) :
    (Expr.conditional note condition yes no).InferSound ctx contexts := by
  have honest : ∀ r ∈ [(condition.infer ctx).2, (yes.infer ctx).2, (no.infer ctx).2],
      r ≠ .error [] := by
    simpa using ⟨hc.honest, hy.honest, hn.honest⟩
  refine .of_settle rfl (fun _ => ⟨hc.coherent, hy.coherent, hn.coherent⟩) ?_ ?_
  · cases ht : allTypes [(condition.infer ctx).2, (yes.infer ctx).2, (no.infer ctx).2] with
    | ok types => exact mismatched_honest _ _
    | error es => exact fun he => allTypes_honest (ht.trans (congrArg _ (Except.error.inj he)))
  · intro t h
    cases ht : allTypes [(condition.infer ctx).2, (yes.infer ctx).2, (no.infer ctx).2] with
    | error es => rw [ht] at h; cases h
    | ok types =>
        rw [ht] at h
        obtain _ | ⟨a, _ | ⟨b, _ | ⟨c, _ | ⟨_, _⟩⟩⟩⟩ := types <;>
          have children := allTypes_ok honest ht <;>
          simp only [List.map_cons, List.map_nil, List.cons.injEq, reduceCtorEq, and_true,
            and_false] at children
        exact ⟨hc.wellTyped children.1, hy.wellTyped children.2.1, hn.wellTyped children.2.2,
          a, b, c, t, Expr.type?_of_infer children.1, Expr.type?_of_infer children.2.1,
          Expr.type?_of_infer children.2.2, mismatched_ok h, rfl⟩

variable {callee : Callee} {args : Args} {old : Option Resolution}

/-- The binding step of a call of a function comes after its arguments. -/
theorem Expr.infer_functionCall (ctx : TypingContext) (note : Note) (name : String) (args : Args)
    (old : Option Resolution) :
    (Expr.call note .function name args old).infer ctx =
      let bound := inferCall ctx name note.span (args.infer ctx).1.names (args.infer ctx).2 old
      settle (.call note .function name (args.infer ctx).1 bound.1) bound.2 := by
  rw [Expr.infer]
  rfl

/-- A call of an aggregation that is unknown stays as it is. -/
theorem Expr.infer_unknownAggregation {name : String} (unknown : ctx.aggregations.get? name = none)
    (note : Note) (args : Args) (old : Option Resolution) :
    (Expr.call note .aggregation name args old).infer ctx =
      (.call note .aggregation name args old,
        .error [unknownName ctx .unknownAggregation "aggregation" name note.span]) := by
  rw [Expr.infer, unknown]

/-- That of a call of one that is known comes after its literals. -/
theorem Expr.infer_aggregationCall {a : Aggregation} {name : String}
    (found : ctx.aggregations.get? name = some a) (note : Note) (args : Args)
    (old : Option Resolution) :
    (Expr.call note .aggregation name args old).infer ctx =
      let bound := inferAggregation ctx a name note.span args.noteLiterals.toList old
      settle (.call note .aggregation name args.noteLiterals bound.1) bound.2 := by
  rw [Expr.infer, found]

/-- A call whose binding is left alone, with an error. -/
theorem Expr.InferSound.of_refused {e : Expr} {es : List CompileError}
    (step : e.infer ctx = settle (.call note callee name args old) (.error es)) (hes : es ≠ [])
    (coherent : ∀ note, (Expr.call note callee name args old).Coherent contexts) :
    e.InferSound ctx contexts := by
  refine .of_settle step coherent (by simpa using hes) fun t ht => ?_
  cases ht

/-- A call that is bound, unless it was bound to something else. -/
theorem Expr.InferSound.of_bindCall {e : Expr} {new : Resolution} {t : ValueType}
    (step : e.infer ctx =
      settle (.call note callee name args (bindCall name note.span old new t).1)
        (bindCall name note.span old new t).2)
    (coherent : ∀ note, (Expr.call note callee name args old).Coherent contexts)
    (bound : ∀ note, (Expr.call note callee name args (some new)).Coherent contexts)
    (kept : ∀ r, old = some r → r.sameTarget new = true → r = new)
    (wellTyped : ∀ note : Note, note.type = some t →
      (Expr.call note callee name args (some new)).WellTyped ctx) :
    e.InferSound ctx contexts := by
  obtain ⟨rfl, bind⟩ | ⟨r, rfl, same, bind⟩ | ⟨es, hes, bind⟩ :=
    bindCall_cases name note.span old new t
  · rw [bind] at step
    refine .of_settle step bound (by simp) fun u hu => ?_
    cases hu
    exact wellTyped _ rfl
  · obtain rfl := kept r rfl same
    rw [bind] at step
    refine .of_settle step bound (by simp) fun u hu => ?_
    cases hu
    exact wellTyped _ rfl
  · rw [bind] at step
    exact .of_refused step hes coherent

/-- The binding of an earlier typing is the one that the types of the arguments lead to now. -/
theorem Typing.FunctionBinding.eq_of_sameTarget {f : Function} {r s : Resolution} {t u : ValueType}
    (new : FunctionBinding args f s t) (earlier : FunctionBinding args f r u)
    (same : r.sameTarget s = true) : r = s := by
  obtain ⟨chosen, typed, applies⟩ := new
  obtain ⟨chosen', typed', applies'⟩ := earlier
  rw [Resolution.sameTarget, Bool.and_eq_true, beq_iff_eq] at same
  obtain ⟨_, rfl⟩ := same
  cases chosen.symm.trans chosen'
  obtain rfl := (List.map_inj_right fun _ _ => Option.some.inj).mp (typed.symm.trans typed')
  cases applies.symm.trans applies'
  rfl

/-- A binding of an earlier typing to the function that is called now is the one that is made
now. -/
theorem Expr.Coherent.function_kept (agree : TypingContext.Agree contexts) (member : ctx ∈ contexts)
    (coherent : (Expr.call note .function name args old).Coherent contexts) {f : Function}
    (found : ctx.functions.get? name = some f) {new : Resolution} {t : ValueType}
    (binding : FunctionBinding (args.infer ctx).1 f new t) :
    ∀ r, old = some r → r.sameTarget new = true → r = new := by
  intro r hr same
  obtain ⟨c, hc, n, g, u, hg, earlier⟩ := coherent.2 r hr
  have callee : g = f := by
    obtain ⟨_, _, _⟩ := earlier
    obtain ⟨_, _, _⟩ := binding
    rw [Resolution.sameTarget, Bool.and_eq_true] at same
    exact agree.functions c hc ctx member _ _ g f hg found same.1
  subst callee
  exact binding.eq_of_sameTarget earlier.infer same

/-- So is one to the aggregation that is called now. -/
theorem Expr.Coherent.aggregation_kept (agree : TypingContext.Agree contexts)
    (member : ctx ∈ contexts)
    (coherent : (Expr.call note .aggregation name args old).Coherent contexts) {a : Aggregation}
    (found : ctx.aggregations.get? name = some a) {column : ValueType} {bound : Arguments Value}
    (literal : bindLiterals a name args.noteLiterals.toList = some bound) :
    ∀ r, old = some r → r.sameTarget (.aggregation a column bound) = true →
      r = .aggregation a column bound := by
  intro r hr same
  obtain ⟨c, hc, m, b, hb, ⟨earlier⟩⟩ := coherent.2 r hr
  rw [Resolution.sameTarget, Bool.and_eq_true, beq_iff_eq, beq_iff_eq] at same
  obtain ⟨callee, rfl⟩ := same
  obtain rfl := agree.aggregations c hc ctx member _ _ b a hb found callee
  rw [Args.bindLiterals_noteLiterals] at literal
  cases literal.symm.trans earlier
  rfl

theorem Expr.InferSound.functionCall (agree : TypingContext.Agree contexts)
    (member : ctx ∈ contexts)
    (coherent : (Expr.call note .function name args old).Coherent contexts)
    (h : args.InferSound ctx contexts) :
    (Expr.call note .function name args old).InferSound ctx contexts := by
  have step := Expr.infer_functionCall ctx note name args old
  have earlier : ∀ r, old = some r → ∃ c ∈ contexts, ∃ n f t, c.functions.get? n = some f ∧
      FunctionBinding (args.infer ctx).1 f r t := by
    intro r hr
    obtain ⟨c, hc, n, f, t, hf, hb⟩ := coherent.2 r hr
    exact ⟨c, hc, n, f, t, hf, hb.infer⟩
  obtain ⟨es, hes, left⟩ | ⟨f, types, i, o, bound, t, hf, typed, ho, applies, new⟩ :=
    inferCall_cases ctx name note.span (args.infer ctx).1.names h.honest
  · rw [left] at step
    exact .of_refused step hes fun _ => ⟨h.coherent, earlier⟩
  · have binding : FunctionBinding (args.infer ctx).1 f (.function f i bound) t :=
      .intro ho (Args.types?_of_infer typed) applies
    rw [new] at step
    refine .of_bindCall step (fun _ => ⟨h.coherent, earlier⟩) (fun _ => ⟨h.coherent, ?_⟩)
      (coherent.function_kept agree member hf binding) ?_
    · intro r hr
      cases hr
      exact ⟨ctx, member, name, f, t, hf, binding⟩
    · exact fun note hnote => ⟨h.wellTyped typed, f, _, t, hf, rfl, binding, hnote⟩

theorem Expr.InferSound.aggregationCall (agree : TypingContext.Agree contexts)
    (member : ctx ∈ contexts)
    (coherent : (Expr.call note .aggregation name args old).Coherent contexts) :
    (Expr.call note .aggregation name args old).InferSound ctx contexts := by
  have noted : args.noteLiterals.Coherent contexts := coherent.1.noteLiterals
  have earlier : ∀ r, old = some r → ∃ c ∈ contexts, ∃ n a, c.aggregations.get? n = some a ∧
      AggregationBinding args.noteLiterals name a r := by
    intro r hr
    obtain ⟨c, hc, n, a, ha, ⟨literal⟩⟩ := coherent.2 r hr
    exact ⟨c, hc, n, a, ha, ⟨(args.bindLiterals_noteLiterals a name).trans literal⟩⟩
  cases ha : ctx.aggregations.get? name with
  | none =>
      have step := Expr.infer_unknownAggregation ha note args old
      exact .of_refused step (List.cons_ne_nil _ _) fun _ => coherent
  | some a =>
      have step := Expr.infer_aggregationCall ha note args old
      obtain ⟨es, hes, left⟩ | ⟨bound, n, column, t, constants, literal, hn, hcol, ht, new⟩ :=
        inferAggregation_cases ctx a name note.span args.noteLiterals.toList
      · rw [left] at step
        exact .of_refused step hes fun _ => ⟨noted, earlier⟩
      · rw [new] at step
        refine .of_bindCall step (fun _ => ⟨noted, earlier⟩) (fun _ => ⟨noted, ?_⟩)
          (coherent.aggregation_kept agree member ha literal) ?_
        · intro r hr
          cases hr
          exact ⟨ctx, member, name, a, ha, ⟨literal⟩⟩
        · exact fun note hnote => ⟨coherent.1.wellTyped_noteLiterals constants, a, column, bound, n, t,
            ha, rfl, literal, hn, hcol, ht, hnote⟩

end Nodes

mutual

/-- Typing a coherent tree leaves a coherent tree behind, and a well-typed one if it is
accepted. -/
theorem Expr.infer_sound (agree : TypingContext.Agree contexts) (member : ctx ∈ contexts) :
    ∀ {e : Expr}, e.Coherent contexts → e.InferSound ctx contexts
  | .constant _ _, h => .constant h
  | .column note ref, _ => by
      refine .of_settle rfl (fun _ => trivial) (resolved_honest _ _ _) fun t ht => ?_
      exact ⟨t, resolved_ok ht, rfl⟩
  | .flowVariable note name, _ => by
      refine .of_settle rfl (fun _ => trivial) (resolved_honest _ _ _) fun t ht => ?_
      exact ⟨t, resolved_ok ht, rfl⟩
  | .unary _ _ _, h => .unary (Expr.infer_sound agree member h)
  | .binary _ _ _ _, h =>
      .binary (Expr.infer_sound agree member h.1) (Expr.infer_sound agree member h.2)
  | .conditional _ _ _ _, h =>
      .conditional (Expr.infer_sound agree member h.1) (Expr.infer_sound agree member h.2.1)
        (Expr.infer_sound agree member h.2.2)
  | .call _ .function _ _ _, h => .functionCall agree member h (Args.infer_sound agree member h.1)
  | .call _ .aggregation _ _ _, h => .aggregationCall agree member h

theorem Args.infer_sound (agree : TypingContext.Agree contexts) (member : ctx ∈ contexts) :
    ∀ {args : Args}, args.Coherent contexts → args.InferSound ctx contexts
  | .nil, _ => ⟨trivial, fun r hr => absurd hr List.not_mem_nil, fun _ => trivial⟩
  | .cons name value rest, h => by
      have hv := Expr.infer_sound agree member h.1
      have hr := Args.infer_sound agree member h.2
      refine ⟨⟨hv.coherent, hr.coherent⟩, fun r hr' => ?_, fun {types} ht => ?_⟩
      · obtain rfl | hr' := List.mem_cons.mp hr'
        · exact hv.honest
        · exact hr.honest r hr'
      · cases types with
        | nil => cases ht
        | cons t types =>
            obtain ⟨ht, hts⟩ := List.cons.inj ht
            exact ⟨hv.wellTyped ht, hr.wellTyped hts⟩

end

/-- Typing a coherent tree in any contexts that agree leaves a coherent tree behind. -/
theorem Expr.Coherent.inferAll (agree : TypingContext.Agree contexts)
    {history : List TypingContext} {e : Expr} (members : ∀ c ∈ history, c ∈ contexts)
    (h : e.Coherent contexts) : (e.inferAll history).Coherent contexts := by
  induction history generalizing e with
  | nil => exact h
  | cons c rest ih =>
      have member : c ∈ contexts := members c (.head _)
      exact ih (fun d hd => members d (.tail _ hd)) (Expr.infer_sound agree member h).coherent

/-- A tree that is accepted after any history of typings is well-typed. -/
theorem Expr.wellTyped_of_infer {history : List TypingContext} {e : Expr} {t : ValueType}
    (agree : TypingContext.Agree (ctx :: history)) (untyped : e.Untyped)
    (accepted : ((e.inferAll history).infer ctx).2 = .ok t) :
    ((e.inferAll history).infer ctx).1.WellTyped ctx := by
  have coherent : (e.inferAll history).Coherent (ctx :: history) :=
    .inferAll agree (fun c hc => .tail _ hc) untyped.coherent
  exact (Expr.infer_sound agree (.head _) coherent).wellTyped accepted

end Rowwise
