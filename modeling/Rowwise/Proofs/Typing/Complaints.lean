import Rowwise.Proofs.Typing.Inference

/-!
# What typing complains about

Every error of typing comes from one of its rules, and begins as the complaints of that rule do:
`Expr.complaints_infer`, by induction on the tree.  `Typing.Complaint` lists the rules with their
messages.  Names and types stand in the middle of a message, and its beginning is fixed, except for
the messages of names without a type, which are those of the context.
-/

namespace Rowwise

namespace Typing

/-- The messages of the rules. -/
inductive Complaint (ctx : TypingContext) : String → Prop where
  | column {ref : ColumnRef} {message : String}
      (reason : ctx.column ref = .error (.absent message) ∨
        ctx.column ref = .error (.unsupported message)) : Complaint ctx message
  | flowVariable {name message : String}
      (reason : ctx.flowVariable name = .error (.absent message) ∨
        ctx.flowVariable name = .error (.unsupported message)) : Complaint ctx message
  | unary {op : UnaryOp} {t : ValueType} {message : String}
      (reason : unaryType op t = .error message) : Complaint ctx message
  | binary {op : BinaryOp} {a b : ValueType} {message : String}
      (reason : binaryType op a b = .error message) : Complaint ctx message
  | conditional {a b c : ValueType} {message : String}
      (reason : conditionalType a b c = .error message) : Complaint ctx message
  | unknown (rest : String) : Complaint ctx ("Unknown " ++ rest)
  | function (rest : String) : Complaint ctx ("In function '" ++ rest)
  | aggregation (rest : String) : Complaint ctx ("In aggregation '" ++ rest)
  | retyped (rest : String) : Complaint ctx ("The expression is already typed as " ++ rest)
  | rebound (rest : String) : Complaint ctx ("The call to '" ++ rest)

/-- All errors of an outcome are complaints of the rules. -/
def Complains (ctx : TypingContext) (r : Inferred) : Prop :=
  ∀ errors, r = .error errors → ∀ x ∈ errors, Complaint ctx x.message

variable {ctx : TypingContext}

theorem Complains.ok (t : ValueType) : Complains ctx (.ok t) := fun _ h => nomatch h

theorem Complains.fault {kind : CompileErrorKind} {message : String} {span : Span}
    (h : Complaint ctx message) : Complains ctx (fault kind message span) := by
  intro errors herrors x hx
  cases herrors
  obtain rfl := List.mem_singleton.mp hx
  exact h

theorem Complains.settle {e : Expr} {r : Inferred} (h : Complains ctx r) :
    Complains ctx (settle e r).2 := by
  cases r with
  | error es => exact h
  | ok t =>
      rw [Typing.settle]
      cases e.type? with
      | none => exact .ok t
      | some s =>
          dsimp only
          split
          · exact .ok t
          · refine .fault ?_
            simp only [String.append_assoc]
            exact .retyped _

/-- The errors of children are passed on. -/
theorem complains_allTypes {results : List Inferred} (h : ∀ r ∈ results, Complains ctx r)
    (rule : List ValueType → Inferred) (hrule : ∀ types, Complains ctx (rule types)) :
    Complains ctx ((allTypes results).bind rule) := by
  unfold allTypes
  dsimp only
  split
  · exact hrule _
  · intro errors herrors x hx
    cases herrors
    obtain ⟨r, hr, hx⟩ := List.mem_flatMap.mp hx
    cases r with
    | ok => cases hx
    | error es => exact h _ hr es rfl x hx

theorem complains_mismatched {span : Span} {x : Except String ValueType}
    (h : ∀ message, x = .error message → Complaint ctx message) :
    Complains ctx (mismatched span x) := by
  cases x with
  | ok t => exact .ok t
  | error message => exact .fault (h message rfl)

theorem complains_resolved {kind : CompileErrorKind} {span : Span} {x : Except Unresolved ValueType}
    (h : ∀ message, x = .error (.absent message) ∨ x = .error (.unsupported message) →
      Complaint ctx message) : Complains ctx (resolved kind span x) := by
  cases x with
  | ok t => exact .ok t
  | error reason =>
      cases reason with
      | absent message => exact .fault (h message (.inl rfl))
      | unsupported message => exact .fault (h message (.inr rfl))

theorem complains_bindCall {name : String} {span : Span} {old : Option Resolution}
    {new : Resolution} {t : ValueType} : Complains ctx (bindCall name span old new t).2 := by
  unfold bindCall
  split
  · exact .ok t
  · split
    · exact .ok t
    · refine .fault ?_
      simp only [String.append_assoc]
      exact .rebound _

theorem complaint_unknownName {kind : CompileErrorKind} {what name : String} {span : Span} :
    Complaint ctx (unknownName ctx kind what name span).message := by
  unfold unknownName
  dsimp only
  simp only [String.append_assoc]
  exact .unknown _

theorem complains_inferCall {name : String} {span : Span} {names : List (Option String)}
    {results : List Inferred} {old : Option Resolution} (h : ∀ r ∈ results, Complains ctx r) :
    Complains ctx (inferCall ctx name span names results old).2 := by
  -- The errors of the arguments, whatever becomes of the call.
  have passed : ∀ es, allTypes results = .error es → ∀ x ∈ es, Complaint ctx x.message := by
    intro es hes
    have all := complains_allTypes h (fun _ => .ok .missing) fun _ => .ok _
    rw [hes] at all
    exact all es rfl
  unfold inferCall
  dsimp only
  split
  · intro errors herrors x hx
    cases herrors
    obtain hx | hx := List.mem_append.mp hx
    · split at hx
      · cases hx
      · next es hes => exact passed es hes x hx
    · obtain rfl := List.mem_singleton.mp hx
      exact complaint_unknownName
  · split
    · next es hes =>
        intro errors herrors
        cases herrors
        exact passed es hes
    · split
      · exact complains_bindCall
      · refine .fault ?_
        unfold overloadMismatch
        split <;>
          simp only [String.append_assoc] <;>
          exact .function _

theorem complaint_literals {name : String} {position : Nat} {args : List (Option String × Expr)}
    {x : CompileError} (h : Except.error x ∈ literals name position args) :
    Complaint ctx x.message := by
  induction args generalizing position with
  | nil => cases h
  | cons b args ih =>
      obtain ⟨label, value⟩ := b
      obtain here | rest := List.mem_cons.mp h
      · cases value <;> cases here
        all_goals
          simp only [String.append_assoc]
          exact .aggregation _
      · exact ih rest

theorem complains_inferAggregation {a : Aggregation} {name : String} {span : Span}
    {args : List (Option String × Expr)} {old : Option Resolution} :
    Complains ctx (inferAggregation ctx a name span args old).2 := by
  have fails (kind : CompileErrorKind) (message : String) :
      Complains ctx (fault kind s!"In aggregation '{name}': {message}" span) := by
    refine .fault ?_
    simp only [String.append_assoc]
    exact .aggregation _
  unfold inferAggregation
  dsimp only
  split
  · intro errors herrors x hx
    cases herrors
    obtain ⟨r, hr, hx⟩ := List.mem_filterMap.mp hx
    cases r with
    | ok => cases hx
    | error y =>
        cases hx
        exact complaint_literals hr
  · split
    · exact fails _ _
    · split
      · exact fails _ _
      · split
        · exact fails _ _
        · exact fails _ _
        · split
          · exact fails _ _
          · exact complains_bindCall

end Typing

open Typing

variable {ctx : TypingContext}

mutual

/-- All errors of typing are complaints of its rules. -/
theorem Expr.complaints_infer : ∀ e : Expr, Complains ctx (e.infer ctx).2
  | .constant _ _ => .settle (.ok _)
  | .column _ ref => .settle (complains_resolved fun _ => .column)
  | .flowVariable _ name => .settle (complains_resolved fun _ => .flowVariable)
  | .unary note op arg => by
      rw [Expr.infer]
      refine .settle ?_
      have ih := Expr.complaints_infer arg
      cases h : (arg.infer ctx).2 with
      | error es => rwa [h] at ih
      | ok t => exact complains_mismatched fun _ => .unary
  | .binary _ left _ right => by
      rw [Expr.infer]
      refine .settle (complains_allTypes (fun r hr => ?_) _ fun types =>
        complains_mismatched fun _ => .binary)
      simp only [List.mem_cons, List.not_mem_nil, or_false] at hr
      obtain rfl | rfl := hr
      · exact Expr.complaints_infer left
      · exact Expr.complaints_infer right
  | .conditional _ condition yes no => by
      rw [Expr.infer]
      refine .settle (complains_allTypes (fun r hr => ?_) _ fun types =>
        complains_mismatched fun _ => .conditional)
      simp only [List.mem_cons, List.not_mem_nil, or_false] at hr
      obtain rfl | rfl | rfl := hr
      · exact Expr.complaints_infer condition
      · exact Expr.complaints_infer yes
      · exact Expr.complaints_infer no
  | .call note .function name args old => by
      rw [Expr.infer_functionCall]
      exact .settle (complains_inferCall (Args.complaints_infer args))
  | .call note .aggregation name args old => by
      cases ha : ctx.aggregations.get? name with
      | none =>
          rw [Expr.infer_unknownAggregation ha]
          intro errors herrors x hx
          cases herrors
          obtain rfl := List.mem_singleton.mp hx
          exact complaint_unknownName
      | some a =>
          rw [Expr.infer_aggregationCall ha]
          exact .settle complains_inferAggregation

theorem Args.complaints_infer : ∀ args : Args, ∀ r ∈ (args.infer ctx).2, Complains ctx r
  | .nil, _, hr => absurd hr List.not_mem_nil
  | .cons _ value rest, r, hr => by
      rw [Args.infer] at hr
      obtain rfl | hr := List.mem_cons.mp hr
      · exact Expr.complaints_infer value
      · exact Args.complaints_infer rest r hr

end

/-! ## How messages begin -/

/-- Two texts differ at a position that both have, so that they begin differently whatever comes
after them. -/
def Clash (a b : String) : Prop :=
  ∃ (i : Nat) (c d : Char), a.toList[i]? = some c ∧ b.toList[i]? = some d ∧ c ≠ d

theorem Clash.of_zip {a b : String}
    (h : (a.toList.zip b.toList).any (fun x => x.1 != x.2) = true) : Clash a b := by
  obtain ⟨x, hx, ne⟩ := List.any_eq_true.mp h
  obtain ⟨i, hi⟩ := List.mem_iff_getElem?.mp hx
  obtain ⟨ha, hb⟩ := List.getElem?_zip_eq_some.mp hi
  exact ⟨i, x.1, x.2, ha, hb, bne_iff_ne.mp ne⟩

theorem getElem?_of_begins {α : Type} {l m : List α} (h : l <+: m) {i : Nat} {a : α}
    (hi : l[i]? = some a) : m[i]? = some a := by
  obtain ⟨lt, rfl⟩ := List.getElem?_eq_some_iff.mp hi
  exact List.prefix_iff_getElem?.mp h i lt

theorem Clash.of_begins {a b message : String} (h : Clash a b)
    (begins : b.toList <+: message.toList) : Clash a message := by
  obtain ⟨i, c, d, ha, hb, ne⟩ := h
  exact ⟨i, c, d, ha, getElem?_of_begins begins hb, ne⟩

/-- A text does not begin with what it clashes with. -/
theorem Clash.not_begins {a message : String} (h : Clash a message) :
    ¬ a.toList <+: message.toList := by
  obtain ⟨i, c, d, ha, hm, ne⟩ := h
  intro begins
  exact ne (Option.some.inj ((getElem?_of_begins begins ha).symm.trans hm))

/-- A message begins with one of some texts. -/
def BeginsWith (heads : List String) (message : String) : Prop :=
  ∃ head ∈ heads, head.toList <+: message.toList

/-- The beginnings of the messages of operators. -/
def operatorHeads : List String :=
  ["Operator ", "Equality ", "When ", "Cannot ", "The condition ", "Both branches "]

theorem BeginsWith.append {heads : List String} {text : String} (h : BeginsWith heads text)
    (rest : String) : BeginsWith heads (text ++ rest) := by
  obtain ⟨head, hhead, begins⟩ := h
  refine ⟨head, hhead, begins.trans ?_⟩
  rw [String.toList_append]
  exact List.prefix_append _ _

instance (heads : List String) (message : String) : Decidable (BeginsWith heads message) :=
  inferInstanceAs (Decidable (∃ head ∈ heads, head.toList <+: message.toList))

theorem notApplicable_begins (op : BinaryOp) (a b : ValueType) :
    BeginsWith operatorHeads (notApplicable op a b) := by
  have begins : BeginsWith operatorHeads "Operator '" := by decide
  simp only [notApplicable, String.append_assoc]
  exact begins.append _

theorem unaryType_error {op : UnaryOp} {t : ValueType} {message : String}
    (h : unaryType op t = .error message) : BeginsWith operatorHeads message := by
  have begins : BeginsWith operatorHeads "Operator '" := by decide
  unfold unaryType at h
  cases op <;> dsimp only at h <;> split at h <;> cases h
  all_goals
    simp only [String.append_assoc]
    exact begins.append _

theorem fallbackType_error {a b : ValueType} {message : String}
    (h : fallbackType a b = .error message) : BeginsWith operatorHeads message := by
  have begins : BeginsWith operatorHeads "Operator '??' is not applicable for " := by decide
  unfold fallbackType at h
  simp only [String.append_assoc] at h
  split at h
  · cases h
    exact begins.append _
  · cases h
  · cases h
  · split at h
    · cases h
    · cases h
      exact begins.append _

theorem temporalSumType_error {op : BinaryOp} {x y : Kind} {message : String}
    (h : temporalSumType op x y = some (.error message)) : BeginsWith operatorHeads message := by
  unfold temporalSumType at h
  dsimp only at h
  split at h
  · split at h <;> cases h
  · cases h
  · cases h
  · repeat' split at h
    all_goals cases h
    all_goals decide

theorem temporalType_error {op : BinaryOp} {a b : ValueType} {optional : Bool} {message : String}
    (h : temporalType op a b optional = .error message) : BeginsWith operatorHeads message := by
  unfold temporalType at h
  split at h
  · split at h
    · cases h
    · next reason found =>
        cases h
        exact temporalSumType_error found
    · cases h
      exact notApplicable_begins ..
  · split at h
    · cases h
    · next reason found =>
        cases h
        exact temporalSumType_error found
    · cases h
      exact notApplicable_begins ..
  · split at h
    · cases h
    · cases h
      exact notApplicable_begins ..
  · cases h
    exact notApplicable_begins ..

theorem arithmeticType_error {op : BinaryOp} {a b : ValueType} {optional : Bool} {message : String}
    (h : arithmeticType op a b optional = .error message) : BeginsWith operatorHeads message := by
  unfold arithmeticType at h
  dsimp only at h
  split at h
  · cases h
  · split at h
    · cases h
    · cases h
      exact notApplicable_begins ..
  · cases h

theorem binaryType_error {op : BinaryOp} {a b : ValueType} {message : String}
    (h : binaryType op a b = .error message) : BeginsWith operatorHeads message := by
  unfold binaryType at h
  dsimp only at h
  split at h
  · cases h
  split at h
  · exact arithmeticType_error h
  split at h
  · split at h <;> cases h
    exact notApplicable_begins ..
  split at h
  · split at h
    · cases h
      decide
    · split at h <;> cases h
      exact notApplicable_begins ..
  split at h
  · split at h <;> cases h
    exact notApplicable_begins ..
  split at h
  · exact fallbackType_error h
  · exact temporalType_error h

theorem conditionalType_error {a b c : ValueType} {message : String}
    (h : conditionalType a b c = .error message) : BeginsWith operatorHeads message := by
  have condition : BeginsWith operatorHeads "The condition must be BOOLEAN, but got " := by decide
  have branches : BeginsWith operatorHeads "Both branches must have a common type, but got " := by
    decide
  unfold conditionalType at h
  simp only [String.append_assoc] at h
  split at h
  · cases h
    exact condition.append _
  · split at h
    · cases h
      exact branches.append _
    · cases h

namespace Typing

/-- The beginnings of all complaints but those of names without a type. -/
def complaintHeads : List String :=
  operatorHeads ++
    ["Unknown ", "In function '", "In aggregation '", "The expression is", "The call to '"]

/-- A complaint begins as one of a rule, or is the one of the context about a name. -/
theorem Complaint.begins {ctx : TypingContext} {message : String} (h : Complaint ctx message) :
    BeginsWith complaintHeads message ∨
      (∃ ref, ctx.column ref = .error (.absent message) ∨
        ctx.column ref = .error (.unsupported message)) ∨
      ∃ name, ctx.flowVariable name = .error (.absent message) ∨
        ctx.flowVariable name = .error (.unsupported message) := by
  have operator {text : String} (h : BeginsWith operatorHeads text) :
      BeginsWith complaintHeads text := by
    obtain ⟨head, hhead, begins⟩ := h
    exact ⟨head, List.mem_append_left _ hhead, begins⟩
  have fixed {text rest : String} (h : BeginsWith complaintHeads text) :
      BeginsWith complaintHeads (text ++ rest) := h.append rest
  cases h with
  | column reason => exact .inr (.inl ⟨_, reason⟩)
  | flowVariable reason => exact .inr (.inr ⟨_, reason⟩)
  | unary reason => exact .inl (operator (unaryType_error reason))
  | binary reason => exact .inl (operator (binaryType_error reason))
  | conditional reason => exact .inl (operator (conditionalType_error reason))
  | unknown | function | aggregation | retyped | rebound => exact .inl (fixed (by decide))

end Typing

end Rowwise
