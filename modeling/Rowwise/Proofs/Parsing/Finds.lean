import Rowwise.Expr.Parser
import Rowwise.Proofs.Typing.WellTyped

/-!
# What readers find

`Reader.Finds r P` says that everything the reader `r` finds has the property `P`.  The property
goes through the combinators, so that what holds of all trees that the grammar gives is proved
reader by reader: a tree that was just parsed has no notes, and its names and integers are those
that can be written.
-/

namespace Rowwise

/-- Everything that the reader finds has the property. -/
def Reader.Finds {α : Type} (r : Reader α) (P : α → Prop) : Prop :=
  ∀ c a after, r c = .ok a after → P a

namespace Reader

variable {α β : Type} {P : α → Prop} {Q : β → Prop}

theorem finds_any (r : Reader α) : r.Finds fun _ => True := fun _ _ _ _ => trivial

theorem finds_pure {a : α} (h : P a) : (pure a : Reader α).Finds P := by
  intro c b after hb
  cases hb
  exact h

theorem finds_failed : (failed : Reader α).Finds P := fun _ _ _ h => nomatch h

theorem Finds.bind {r : Reader α} {f : α → Reader β} (hr : r.Finds P)
    (hf : ∀ a, P a → (f a).Finds Q) : (r >>= f).Finds Q := by
  intro c b after h
  simp only [Bind.bind] at h
  cases read : r c with
  | ok a d =>
      rw [read] at h
      exact hf a (hr c a d read) d b after h
  | retry issue place =>
      rw [read] at h
      cases h
  | stop issue place =>
      rw [read] at h
      cases h

/-- Where it does not matter what the first reader finds. -/
theorem finds_then {r : Reader α} {f : α → Reader β} (hf : ∀ a, (f a).Finds Q) :
    (r >>= f).Finds Q := (finds_any r).bind fun a _ => hf a

theorem Finds.required {r : Reader α} (h : r.Finds P) : (required r).Finds P := by
  intro c a after ha
  unfold Reader.required at ha
  split at ha
  · cases ha
  · exact h c a after ha

theorem Finds.expecting {r : Reader α} {e : Expectation} (h : r.Finds P) :
    (expecting e r).Finds P := by
  intro c a after ha
  unfold Reader.expecting at ha
  dsimp only at ha
  split at ha
  · next b d hb =>
      cases ha
      exact h c a after hb
  · cases ha
  · cases ha

theorem Finds.orElse {r s : Reader α} (hr : r.Finds P) (hs : s.Finds P) :
    (orElse r s).Finds P := by
  intro c a after ha
  unfold Reader.orElse at ha
  split at ha
  · exact hs c a after ha
  · exact hr c a after ha

theorem finds_choice : ∀ {rs : List (Reader α)}, (∀ r ∈ rs, r.Finds P) → (choice rs).Finds P
  | [], _ => finds_failed
  | [_], h => h _ (.head _)
  | _ :: _ :: _, h =>
      (h _ (.head _)).orElse (finds_choice fun s hs => h s (.tail _ hs))

theorem Finds.optional {r : Reader α} (h : r.Finds P) :
    (optional r).Finds fun o => ∀ a, o = some a → P a := by
  intro c o after ho
  unfold Reader.optional at ho
  split at ho
  · next b d hb =>
      cases ho
      intro a ha
      cases ha
      exact h c _ _ hb
  · cases ho
    exact fun a ha => nomatch ha
  · cases ho

theorem Finds.manyWithin {r : Reader α} (h : r.Finds P) :
    ∀ fuel, (manyWithin r fuel).Finds fun as => ∀ a ∈ as, P a
  | 0 => finds_pure (by simp)
  | fuel + 1 => by
      intro c as after hc
      rw [Reader.manyWithin] at hc
      dsimp only at hc
      split at hc
      · next a d ha =>
          split at hc
          · next as' d' has =>
              cases hc
              exact List.forall_mem_cons.mpr
                ⟨h c a d ha, Finds.manyWithin h fuel d as' after has⟩
          · cases hc
          · cases hc
      · cases hc
        simp
      · cases hc

theorem Finds.many {r : Reader α} (h : r.Finds P) : (many r).Finds fun as => ∀ a ∈ as, P a :=
  fun c => h.manyWithin c.rest.length c

theorem Finds.separatedBy {r : Reader α} {separator : Reader β} (h : r.Finds P) :
    (separatedBy separator r).Finds fun as => ∀ a ∈ as, P a := by
  intro c as after hc
  unfold Reader.separatedBy at hc
  split at hc
  · next a d ha =>
      split at hc
      · next as' d' has =>
          cases hc
          have rest := Finds.many (finds_then (r := separator) fun _ => h) d as' after has
          exact List.forall_mem_cons.mpr ⟨h c a d ha, rest⟩
      · cases hc
      · cases hc
  · cases hc
    simp
  · cases hc

/-- What was converted comes from something that the reader found. -/
theorem Finds.converted {f : α → Except String β} {r : Reader α} (h : r.Finds P)
    (hf : ∀ a b, P a → f a = .ok b → Q b) : (converted f r).Finds Q := by
  intro c b after hb
  unfold Reader.converted at hb
  split at hb
  · next a d ha =>
      split at hb
      · next b' hb' =>
          cases hb
          exact hf a _ (h c a after ha) hb'
      · cases hb
  · cases hb
  · cases hb

theorem finds_satisfying (p : Char → Bool) : (satisfying p).Finds fun c => p c = true := by
  intro c a after h
  unfold satisfying at h
  split at h
  · next b d _ =>
      split at h
      · next hp =>
          cases h
          exact hp
      · cases h
  · cases h

theorem finds_run (p : Char → Bool) : (run p).Finds fun cs => ∀ c ∈ cs, p c = true := by
  intro c cs after h
  cases h
  exact fun a ha => List.all_eq_true.mp List.all_takeWhile a ha

theorem finds_run1 (p : Char → Bool) : (run1 p).Finds fun cs => ∀ c ∈ cs, p c = true := by
  intro c cs after h
  unfold run1 at h
  dsimp only at h
  split at h
  · cases h
  · cases h
    exact fun a ha => List.all_eq_true.mp List.all_takeWhile a ha

end Reader

/-! ## Trees that are parsed -/

/-- The literals that can be written: integers without a sign, and the least integer by its name. -/
def Constant.Written : Constant → Prop
  | .integer n => 0 ≤ n.toInt ∨ n = Int64.minValue
  | _ => True

/-- The kind of call that a name stands for. -/
def Callee.ofName (name : String) : Callee :=
  if Grammar.isAggregationName name then .aggregation else .function

mutual

/-- The trees that come out of the parser: without notes, and with names and literals that can be
written. -/
def Expr.Parsed : Expr → Prop
  | .constant note c => note.type = none ∧ c.Written
  | .column note _ | .flowVariable note _ => note.type = none
  | .unary note _ arg => note.type = none ∧ arg.Parsed
  | .binary note left _ right => note.type = none ∧ left.Parsed ∧ right.Parsed
  | .conditional note condition yes no =>
    note.type = none ∧ condition.Parsed ∧ yes.Parsed ∧ no.Parsed
  | .call note callee name args resolution =>
    note.type = none ∧ resolution = none ∧ callee = Callee.ofName name ∧
      isPlainName name = true ∧ args.Parsed

def Args.Parsed : Args → Prop
  | .nil => True
  | .cons name value rest =>
    (∀ n, name = some n → isPlainName n = true) ∧ value.Parsed ∧ rest.Parsed

end

mutual

theorem Expr.Parsed.untyped : ∀ {e : Expr}, e.Parsed → e.Untyped
  | .constant _ _, h => h.1
  | .column _ _, h | .flowVariable _ _, h => h
  | .unary _ _ _, h => ⟨h.1, h.2.untyped⟩
  | .binary _ _ _ _, h => ⟨h.1, h.2.1.untyped, h.2.2.untyped⟩
  | .conditional _ _ _ _, h => ⟨h.1, h.2.1.untyped, h.2.2.1.untyped, h.2.2.2.untyped⟩
  | .call _ _ _ _ _, h => ⟨h.1, h.2.1, h.2.2.2.2.untyped⟩

theorem Args.Parsed.untyped : ∀ {args : Args}, args.Parsed → args.Untyped
  | .nil, _ => trivial
  | .cons _ _ _, h => ⟨h.2.1.untyped, h.2.2.untyped⟩

end

/-- Where a tree stands in the text does not matter. -/
theorem Expr.Parsed.withSpan {e : Expr} (h : e.Parsed) (span : Span) : (e.withSpan span).Parsed := by
  cases e <;> exact h

theorem Args.parsed_ofList {args : List (Option String × Expr)}
    (h : ∀ a ∈ args, (∀ n, a.1 = some n → isPlainName n = true) ∧ a.2.Parsed) :
    (Args.ofList args).Parsed := by
  induction args with
  | nil => trivial
  | cons a args ih =>
      obtain ⟨hn, he⟩ := h a (.head _)
      exact ⟨hn, he, ih fun b hb => h b (.tail _ hb)⟩

namespace Grammar

open Reader

/-! ## Names and literals -/

theorem name_finds : name.Finds fun n => isPlainName n = true := by
  refine (finds_satisfying _).bind fun c hc => ?_
  refine (finds_run _).bind fun cs hcs => finds_pure ?_
  simp only [isPlainName, String.toList_ofList, hc, Bool.true_and, List.all_eq_true]
  exact hcs

theorem namedConstant_written {n : String} {c : Constant} (h : namedConstant? n = some c) :
    c.Written := by
  unfold namedConstant? at h
  split at h <;> cases h <;> first | trivial | exact .inr rfl | exact .inl (by decide)

theorem namedConstant_finds : namedConstant.Finds Constant.Written := by
  refine finds_then fun _ => Finds.required ?_
  refine (finds_any name).converted fun n c _ hc => ?_
  split at hc
  · next d hd =>
      cases hc
      exact namedConstant_written hd
  · cases hc

theorem notDigit_sign {c : Char} (h : c.isDigit = true) : c ≠ '+' ∧ c ≠ '-' := by
  constructor <;> (intro e; subst e; cases h)

/-- Digits without a sign are not negative. -/
theorem integerOfDigits_nonneg {digits : List Char} {n : Int64}
    (hdigits : ∀ c ∈ digits, c.isDigit = true) (h : integerOfDigits digits = .ok n) :
    0 ≤ n.toInt := by
  unfold integerOfDigits at h
  split at h
  · next m hm =>
      cases h
      obtain ⟨k, hk, hn⟩ := Option.bind_eq_some_iff.mp hm
      -- A digit comes first, so that the reader takes neither sign away.
      have nonneg : 0 ≤ k := by
        cases digits with
        | nil => cases hk
        | cons c rest =>
            obtain ⟨plus, minus⟩ := notDigit_sign (hdigits c (.head _))
            rw [Decimal.readInt?] at hk
            · obtain ⟨j, _, rfl⟩ := Option.map_eq_some_iff.mp hk
              exact Int.natCast_nonneg j
            · exact fun r h => plus (List.cons.inj h).1
            · exact fun r h => minus (List.cons.inj h).1
      unfold Integer.ofInt? at hn
      split at hn
      · next range =>
          cases hn
          rw [Int64.toInt_ofInt_of_le (by omega) (by omega)]
          exact nonneg
      · cases hn
  · split at h
    · split at h <;> cases h
    · cases h

theorem integerLiteral_finds : integerLiteral.Finds fun n => 0 ≤ n.toInt := by
  refine finds_then fun _ => Finds.required (Finds.expecting ?_)
  refine (finds_run1 _).converted fun text n htext hn => integerOfDigits_nonneg ?_ hn
  intro c hc
  obtain ⟨hc, hne⟩ := List.mem_filter.mp hc
  obtain h | h := Bool.or_eq_true_iff.mp (htext c hc)
  · exact h
  · simp_all

/-! ## Compound expressions -/

theorem parsed_unaryNode {op : UnaryOp} {start : Nat} {arg : Expr} (h : arg.Parsed) :
    (unaryNode op start arg).Parsed := ⟨rfl, h⟩

theorem parsed_binaryNode {op : BinaryOp} {left right : Expr} (hl : left.Parsed)
    (hr : right.Parsed) : (binaryNode left op right).Parsed := ⟨rfl, hl, hr⟩

theorem flowVariableAccess_finds : flowVariableAccess.Finds Expr.Parsed :=
  finds_then fun _ => finds_then fun _ => finds_pure rfl

theorem columnAccess_finds : columnAccess.Finds Expr.Parsed :=
  finds_then fun _ => finds_then fun _ => finds_pure rfl

theorem leftGrouped_finds {operand : Reader Expr} {operator : Reader BinaryOp}
    (h : operand.Finds Expr.Parsed) : (leftGrouped operand operator).Finds Expr.Parsed := by
  refine h.bind fun first hfirst => ?_
  have step : Reader.Finds (do
      blanks
      let op ← operator
      let right ← required operand
      pure (op, right)) fun p : BinaryOp × Expr => p.2.Parsed :=
    finds_then fun _ => finds_then fun _ => h.required.bind fun _ hr => finds_pure hr
  refine step.many.bind fun rest hrest => finds_pure ?_
  induction rest generalizing first with
  | nil => exact hfirst
  | cons p rest ih =>
      obtain ⟨hp, hrest⟩ := List.forall_mem_cons.mp hrest
      exact ih _ (parsed_binaryNode hfirst hp) hrest

/-- All readers for nested expressions find parsed trees. -/
structure Nested.Finds (g : Nested) : Prop where
  expr : g.expr.Finds Expr.Parsed
  notLevel : g.notLevel.Finds Expr.Parsed
  unaryLevel : g.unaryLevel.Finds Expr.Parsed
  fallbackLevel : g.fallbackLevel.Finds Expr.Parsed

namespace Nested

variable {g : Nested}

theorem ifBlock_finds (h : g.Finds) : g.ifBlock.Finds Expr.Parsed := by
  refine finds_then fun _ => finds_then fun _ => finds_then fun _ => ?_
  refine h.expr.bind fun condition hc => ?_
  refine finds_then fun _ => finds_then fun _ => finds_then fun _ => finds_then fun _ => ?_
  refine Finds.required (h.expr.bind fun yes hy => ?_)
  refine finds_then fun _ => finds_then fun _ => finds_then fun _ => finds_then fun _ =>
    finds_then fun _ => finds_then fun _ => ?_
  refine h.expr.bind fun no hn => ?_
  exact finds_then fun _ => finds_then fun _ => finds_pure ⟨rfl, hc, hy, hn⟩

theorem argument_finds (h : g.Finds) :
    g.argument.Finds fun a => (∀ n, a.1 = some n → isPlainName n = true) ∧ a.2.Parsed := by
  refine Finds.orElse ?_ (h.expr.bind fun value hv => finds_pure ⟨fun n hn => (nomatch hn), hv⟩)
  refine finds_then fun _ => name_finds.bind fun n hn => ?_
  refine finds_then fun _ => finds_then fun _ => finds_then fun _ => ?_
  refine h.expr.required.bind fun value hv => finds_pure ⟨fun k hk => ?_, hv⟩
  cases hk
  exact hn

theorem call_finds (h : g.Finds) : g.call.Finds Expr.Parsed := by
  refine name_finds.bind fun n hn => finds_then fun _ => finds_then fun _ => ?_
  have arguments : g.arguments.Finds fun args =>
      ∀ a ∈ args, (∀ n, a.1 = some n → isPlainName n = true) ∧ a.2.Parsed :=
    (argument_finds h).separatedBy.bind fun args hargs => finds_then fun _ => finds_pure hargs
  refine (Finds.required (arguments.bind fun args hargs => finds_then fun _ =>
    finds_then fun _ => finds_pure hargs)).bind fun args hargs => finds_pure ?_
  exact ⟨rfl, rfl, rfl, hn, Args.parsed_ofList hargs⟩

theorem primary_finds (h : g.Finds) : g.primary.Finds Expr.Parsed := by
  refine Finds.expecting (finds_then fun _ => Finds.orElse ?_ ?_)
  · refine finds_then fun _ => h.expr.required.bind fun e he => ?_
    exact finds_then fun _ => finds_pure he
  · refine finds_then fun start => ?_
    have atom : g.atom.Finds Expr.Parsed := by
      refine finds_choice fun r hr => ?_
      simp only [List.mem_cons, List.not_mem_nil, or_false] at hr
      obtain rfl | rfl | rfl | rfl | rfl | rfl | rfl | rfl := hr
      · exact ifBlock_finds h
      · exact call_finds h
      · exact flowVariableAccess_finds
      · exact columnAccess_finds
      · exact finds_then fun _ => finds_pure ⟨rfl, trivial⟩
      · exact integerLiteral_finds.bind fun n hn => finds_pure ⟨rfl, .inl hn⟩
      · exact finds_then fun _ => finds_pure ⟨rfl, trivial⟩
      · exact namedConstant_finds.bind fun c hc => finds_pure ⟨rfl, hc⟩
    exact atom.bind fun e he => finds_then fun finish => finds_pure (he.withSpan _)

theorem negation_finds (h : g.Finds) : g.negation.Finds Expr.Parsed :=
  finds_then fun _ => finds_then fun _ => finds_then fun _ =>
    h.unaryLevel.required.bind fun _ ha => finds_pure (parsed_unaryNode ha)

theorem fallback_finds (h : g.Finds) : g.fallback.Finds Expr.Parsed := by
  refine (primary_finds h).bind fun left hl => ?_
  have right : Reader.Finds (do
      blanks
      literal "??"
      required (orElse g.negation g.fallbackLevel)) Expr.Parsed :=
    finds_then fun _ => finds_then fun _ =>
      Finds.required ((negation_finds h).orElse h.fallbackLevel)
  refine right.optional.bind fun right hr => finds_pure ?_
  cases right with
  | none => exact hl
  | some right => exact parsed_binaryNode hl (hr right rfl)

theorem power_finds (h : g.Finds) : g.power.Finds Expr.Parsed := by
  refine (fallback_finds h).bind fun base hb => ?_
  have exponent : Reader.Finds (do
      blanks
      literal "**"
      required g.unaryLevel) Expr.Parsed :=
    finds_then fun _ => finds_then fun _ => h.unaryLevel.required
  refine exponent.optional.bind fun exponent he => finds_pure ?_
  cases exponent with
  | none => exact hb
  | some exponent => exact parsed_binaryNode hb (he exponent rfl)

theorem unary_finds (h : g.Finds) : g.unary.Finds Expr.Parsed :=
  (negation_finds h).orElse (power_finds h)

theorem compared_finds (h : g.Finds) : g.compared.Finds Expr.Parsed := by
  have sum : g.sum.Finds Expr.Parsed := leftGrouped_finds (leftGrouped_finds (unary_finds h))
  refine sum.bind fun left hl => ?_
  have right : Reader.Finds (do
      blanks
      let op ← comparison
      let right ← required g.sum
      pure (op, right)) fun p : BinaryOp × Expr => p.2.Parsed :=
    finds_then fun _ => finds_then fun _ => sum.required.bind fun _ hr => finds_pure hr
  refine right.optional.bind fun rest hrest => finds_pure ?_
  cases rest with
  | none => exact hl
  | some p => exact parsed_binaryNode hl (hrest p rfl)

theorem negated_finds (h : g.Finds) : g.negated.Finds Expr.Parsed := by
  refine finds_then fun start => ?_
  cases start with
  | some start =>
      exact h.notLevel.required.bind fun _ ha => finds_pure (parsed_unaryNode ha)
  | none => exact compared_finds h

end Nested

/-- At every depth the grammar finds parsed trees. -/
theorem grammar_finds : ∀ depth, (grammar depth).Finds
  | 0 => ⟨finds_failed, finds_failed, finds_failed, finds_failed⟩
  | depth + 1 =>
      have h := grammar_finds depth
      ⟨leftGrouped_finds (leftGrouped_finds (Nested.negated_finds h)), Nested.negated_finds h,
        Nested.unary_finds h, Nested.fallback_finds h⟩

end Grammar

/-- Trees that `parse` accepts are parsed ones. -/
theorem Expr.parsed_of_parse {source : String} {e : Expr} (h : parse source = .ok e) :
    e.Parsed := by
  unfold parse at h
  dsimp only at h
  split at h
  · next f after hf =>
      cases h
      have whole : (Grammar.whole (source.toList.length + 1)).Finds Expr.Parsed :=
        (Grammar.grammar_finds _).expr.bind fun e he =>
          Reader.finds_then fun _ => Reader.finds_then fun _ => Reader.finds_pure he
      exact whole _ _ _ hf
  · cases h
  · cases h

end Rowwise
