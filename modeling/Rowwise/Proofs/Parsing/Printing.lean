import Rowwise.Proofs.Parsing.Printed
import Rowwise.Proofs.Parsing.Rendering

/-!
# Printing is undone by parsing

The printed form of a tree that came out of the parser is parsed as the same tree again, for all
trees that are `Expr.Printable`.  Printing puts every compound operand in parentheses, so that no
operand is looser than its place allows; what remains are the words which the parser takes for
something else than the printer meant.

`Expr.Printable.reread` goes through the tree: its tokens are an expression of the level of its
outermost operator.  Calls named `if` need an argument of their own.  Their tokens are first read as
a block, whose condition is an equation if the first argument is named.  `Leads` says how far the
right side of that equation reaches, and `noBlock_named` that in no case the block fails for good.
-/

namespace Rowwise

open Grammar Printer Reader

/-! ## Calls that begin like a block with an equation -/

/-- The tokens are those of a sum, or of a sum in front of a comparison or a logical operator. -/
inductive Leads : List Token → Prop where
  | sum {ts : List Token} {e : Expr} (h : Readable .sum ts e) : Leads ts
  | looser {tl tr : List Token} {t : Token} {l r : Expr} {op : BinaryOp} (hl : Readable .sum tl l)
      (hop : op.Spells t) (looser : op.level < .sum) (hr : Readable op.level.right tr r) :
      Leads (tl ++ t :: tr)

section Equation

variable {n : String} {c : Constant} {ts us : List Token} {e : Expr} {t : Token} {op : BinaryOp}
  {text : List Char} {d : Nat}

/-- The name of a constant and a single sign of equality in front of a sum. -/
theorem takes_equation (hc : namedConstant? n = some c) (hr : Readable .sum ts e)
    (hd : ts.length + 2 ≤ d) (spelled : Spelled (.word n :: .mark "=" :: ts ++ us) text)
    (follows : Follows .sum us) :
    (grammar d).compared.Takes text fun f rest =>
      f.erase = (Expr.binary {} (.constant {} c) .equal e).erase ∧ Spelled us rest := by
  have name : Readable .primary [.word n] (.constant {} c) := .constant ⟨c, hc, rfl⟩
  have left : Readable .sum [.word n] (.constant {} c) :=
    name.loosenTo (by decide) fun le => absurd le (by decide)
  refine takes_compared (t := .mark "=") left (fun vs _ => .assign (by decide)) ?_ hr hd spelled follows
  intro vs text opens facing
  cases facing with
  | cons writes _ spelled =>
      obtain ⟨_, rfl⟩ := writes
      refine (takes_symbol 7 rfl (by decide) (opens.lacks_joins spelled)).weaken ?_ id id
      rintro _ _ ⟨rfl, rfl⟩
      exact ⟨rfl, spelled⟩

/-- Neither `and` nor `or` begins like a comparison. -/
theorem refuses_logical {M : Level} (hM : M = .and ∨ M = .or) (hop : op.Spells t)
    (level : op.level = .comparison) (facing : Facing (t :: us) text) :
    M.operator.Refuses text := by
  obtain ⟨s, hs, rest, rfl, _⟩ := hop.text facing
  have other : ∀ s ∈ op.symbols, s.toList.head?.any (!M.signs.contains ·) = true := by
    rcases hM with rfl | rfl <;> cases op <;> first | decide | cases level
  exact Level.refuses_symbol (other s hs)

/-- Where the equation does not begin like a prefix `not`, it is read at the level of that prefix. -/
theorem takes_negated {Q : Expr → List Char → Prop} (hc : namedConstant? n = some c)
    (spelled : Spelled (.word n :: ts) text) (h : (grammar d).compared.Takes text Q) :
    (grammar d).negated.Takes text Q := by
  have notPrefix : Reader.Refuses (do
      blanks
      let start ← offset
      keyword "not"
      pure start) text := by
    have word : Opens [.word n] := ⟨_, rfl, trivial⟩
    refine refuses_not word spelled ?_
    rintro ⟨⟩
    cases hc
  exact notPrefix.bind_optional h

/-- Another comparison ends the equation, and with it the whole expression. -/
theorem takes_disjunction {Q : Expr → Prop} (hop : op.Spells t) (level : op.level = .comparison)
    (h : (grammar d).negated.Takes text fun f rest => Q f ∧ Spelled (t :: us) rest) :
    (grammar d).disjunction.Takes text fun f rest => Q f ∧ Spelled (t :: us) rest := by
  have done {M : Level} (hM : M = .and ∨ M = .or) {operand : Reader Expr} {rest : List Char}
      (hrest : Spelled (t :: us) rest) : (groupStep operand M.operator).Refuses rest :=
    hrest.takes_blanks.bind fun _ _ facing => (refuses_logical hM hop level facing).bind _
  have conjunction : (grammar d).conjunction.Takes text
      fun f rest => Q f ∧ Spelled (t :: us) rest := by
    refine ends_leftGrouped (h.weaken ?_ id id)
    rintro f rest ⟨hf, hrest⟩
    exact ends_groupLoop_done (done (.inl rfl) hrest) ⟨hf, hrest⟩
  refine ends_leftGrouped (conjunction.weaken ?_ id id)
  rintro f rest ⟨hf, hrest⟩
  exact ends_groupLoop_done (done (.inr rfl) hrest) ⟨hf, hrest⟩

/-! Up to a sum or a logical operator the equation is an expression of its own. -/

theorem reads_equation (hc : namedConstant? n = some c) (h : Readable .sum ts e) :
    Reads .not (.word n :: .mark "=" :: ts) (.binary {} (.constant {} c) .equal e) := by
  intro d hd us text spelled follows
  exact takes_negated hc spelled
    (takes_equation hc h hd spelled (follows.tighten (by decide)))

theorem Reads.or_of_and (h : Reads .and ts e) : Reads .or ts e :=
  (Reads.joins (L := .or) h trivial).reads

theorem Reads.and_of_not (h : Reads .not ts e) : Reads .and ts e :=
  (Reads.joins (L := .and) h trivial).reads

/-- The equation is an expression, or it ends at a comparison. -/
theorem Leads.equation (h : Leads ts) (hc : namedConstant? n = some c) :
    (∃ e, Reads .or (.word n :: .mark "=" :: ts) e) ∨
      ∃ (tl tr : List Token) (t : Token) (l : Expr) (op : BinaryOp), ts = tl ++ t :: tr ∧
        Readable .sum tl l ∧ op.Spells t ∧ op.level = .comparison ∧ Opens tr := by
  cases h with
  | sum h => exact .inl ⟨_, (reads_equation hc h).and_of_not.or_of_and⟩
  | @looser tl tr t l r op hl hop looser hr =>
      have left := reads_equation hc hl
      cases op with
      | and =>
          have joins : Joins BinaryOp.and.level _ _ := Reads.joins (L := .and) left trivial
          have joined : Joins .and (.word n :: .mark "=" :: (tl ++ t :: tr))
              (.binary {} (.binary {} (.constant {} c) .equal l) .and r) :=
            joins.binary hop hr.opens hr.reads trivial
          exact .inl ⟨_, joined.reads.or_of_and⟩
      | or =>
          have joins : Joins BinaryOp.or.level _ _ := Reads.joins (L := .or) left.and_of_not trivial
          have joined : Joins .or (.word n :: .mark "=" :: (tl ++ t :: tr))
              (.binary {} (.binary {} (.constant {} c) .equal l) .or r) :=
            joins.binary hop hr.opens hr.reads trivial
          exact .inl ⟨_, joined.reads⟩
      | lessThan | lessThanEqual | greaterThan | greaterThanEqual | equal | notEqual =>
          exact .inr ⟨tl, tr, t, l, _, rfl, hl, hop, rfl, hr.opens⟩
      | _ => exact absurd looser (by decide)

end Equation

/-- The tokens of the arguments are not taken for a condition if the first one is named after a
constant and its value leads somewhere. -/
theorem noBlock_named {n : String} {c : Constant} {vs ws : List Token} {rest : Args}
    (hc : namedConstant? n = some c) (leads : Leads vs) (more : MoreTokens (Readable .or) rest ws) :
    NoBlock (.word n :: .mark "=" :: vs ++ ws) := by
  intro d us text hd spelled follows
  simp only [List.length_append, List.length_cons] at hd
  obtain _ | d := d
  · cases hd
  obtain ⟨symbol, hsymbol, xs, next⟩ := more.head us
  have closing : symbol ∈ [")", ",", "\x7d"] := by
    obtain rfl | rfl : symbol = ")" ∨ symbol = "," := by simpa using hsymbol
    · decide
    · decide
  rw [List.append_assoc, next] at spelled
  have noBrace := more.noBrace follows
  rw [next] at noBrace
  -- The argument is read as an equation with the constant, or as a longer expression.
  rcases leads.equation hc with ⟨e, reads⟩ | ⟨tl, tr, t, l, op, rfl, hl, hop, level, opens⟩
  · have found := reads d (by simp only [List.length_cons]; omega) _ text spelled (.close closing)
    refine found.ends.weaken ?_ id id
    rintro f left ⟨_, hleft⟩
    exact ⟨_, hleft, noBrace⟩
  · have follows : Follows .sum (t :: (tr ++ .mark symbol :: xs)) :=
      .operator hop (by rw [level]; decide) (opens.append _)
    simp only [List.length_append, List.length_cons] at hd
    simp only [List.cons_append, List.append_assoc] at spelled
    have enough : tl.length + 2 ≤ d := by omega
    have equation := takes_equation hc hl enough spelled follows
    have found := takes_disjunction hop level (takes_negated hc spelled equation)
    refine found.ends.weaken ?_ id id
    rintro f left ⟨_, hleft⟩
    refine ⟨_, hleft, fun ys same => ?_⟩
    exact hop.ne_mark (fun op => by cases op <;> decide) (List.cons.inj same).1

/-! ## Trees -/

/-- The level of the outermost operator. -/
def Expr.level : Expr → Level
  | .unary _ .not _ => .not
  | .unary _ .minus _ => .minus
  | .binary _ _ op _ => op.level
  | _ => .primary

theorem Expr.level_eq_primary {e : Expr} (h : needsParens e = false) : e.level = .primary := by
  cases e with
  | unary note op arg => cases h
  | binary note left op right => cases h
  | _ => rfl

/-- In parentheses it does not matter where a tree is printed. -/
theorem Expr.Printable.inside {e : Expr} {first : Bool} (h : e.Printable first)
    (parens : needsParens e = true) : e.Printable true := by
  cases e with
  | call => cases parens
  | _ => exact h

/-- What an induction over printable trees shows of a tree: its tokens are an expression of the
level of its outermost operator, and they lead somewhere behind a sign of equality. -/
structure Expr.Reread (first : Bool) (e : Expr) : Prop where
  sound : Sound first e.level e.tokens e
  leads : ¬e.IsBareNot → Leads e.tokens

section Trees

variable {first : Bool} {e : Expr} {L : Level} {ts : List Token}

theorem Sound.leads (h : Sound first L ts e) (le : .sum ≤ L) : Leads ts :=
  .sum (h.readable.loosenTo le fun le => absurd le (by decide))

/-- A tree of its own is an expression of the loosest level. -/
theorem Expr.Reread.readable (h : e.Reread true) : Readable .or e.tokens e :=
  (h.sound.loosen (Nat.zero_le _) fun _ => rfl).readable

/-- An operand stands in parentheses, unless it is a primary expression. -/
theorem Expr.Printable.operand (h : e.Printable first)
    (reread : ∀ first, e.Printable first → e.Reread first) :
    Sound first .primary (parenthesizedTokens (needsParens e) e.tokens) e := by
  unfold parenthesizedTokens
  cases parens : needsParens e with
  | true => exact ⟨(reread true (h.inside parens)).readable.parens, by simp⟩
  | false => exact e.level_eq_primary parens ▸ (reread first h).sound

/-- Behind its parenthesis a `not` is read like a call. -/
theorem leads_not {arg : Expr} (h : Readable .or ts arg) :
    Leads (.word "not" :: .mark "(" :: (ts ++ [.mark ")"])) := by
  have one : ArgumentsTokens (Readable .or) (.cons none arg .nil) ts := by
    rw [← List.append_nil ts]
    exact .cons (.positional h) .nil
  have call : Readable .primary _ (.call {} (Callee.ofName "not") "not" _ none) :=
    .call one rfl fun same => absurd same (by decide)
  exact .sum (call.loosenTo (by decide) fun le => absurd le (by decide))

theorem ColumnRef.Renders.head_ne_not {ref : ColumnRef} (h : ref.Renders ts) :
    ts.head? ≠ some (.word "not") := by
  cases h <;> simp

theorem FlowVariableRenders.head_ne_not {name : String} (h : FlowVariableRenders name ts) :
    ts.head? ≠ some (.word "not") := by
  cases h <;> simp

theorem ArgumentsTokens.more {R : List Token → Expr → Prop} {name : Option String} {value : Expr}
    {rest : Args} (h : ArgumentsTokens R (.cons name value rest) ts) :
    MoreTokens R (.cons name value rest) (.mark "," :: ts) := by
  cases h with
  | cons first more => exact .cons first more

/-- What the induction shows of arguments. -/
structure Args.Reread (args : Args) : Prop where
  tokens : ArgumentsTokens (Readable .or) args args.tokens
  noBlock : ¬args.FailAsCondition → NoBlock args.tokens

/-- The tokens of further arguments begin with a comma. -/
theorem Args.Reread.more {rest : Args} (h : rest.Reread) (name : Option String) (value : Expr) :
    ∃ ws, MoreTokens (Readable .or) rest ws ∧
      (Args.cons name value rest).tokens = labelTokens name ++ value.tokens ++ ws := by
  cases rest with
  | nil => exact ⟨[], .nil, by rw [Args.tokens, List.append_nil]⟩
  | cons other next rest =>
      refine ⟨.mark "," :: (Args.cons other next rest).tokens, h.tokens.more, ?_⟩
      rw [Args.tokens]
      intro none
      cases none

theorem Args.Reread.cons {name : Option String} {value : Expr} {rest : Args}
    (hv : value.Reread true) (hr : rest.Reread) : (Args.cons name value rest).Reread := by
  obtain ⟨ws, more, tokens⟩ := hr.more name value
  have first : ArgumentTokens (Readable .or) name value (labelTokens name ++ value.tokens) := by
    cases name with
    | none => exact .positional hv.readable
    | some n => exact .named hv.readable
  have all : ArgumentsTokens (Readable .or) (.cons name value rest)
      (labelTokens name ++ value.tokens ++ ws) := .cons first more
  rw [← tokens] at all
  refine ⟨all, fun condition => ?_⟩
  cases name with
  | none => exact noBlock_positional all
  | some n =>
      -- Named after a constant, it is an equation that does not fail for good.
      obtain ⟨constant, bare⟩ := not_or.mp condition
      obtain ⟨c, hc⟩ := Option.ne_none_iff_exists'.mp constant
      rw [tokens]
      exact noBlock_named hc (hv.leads bare) more

/-! One lemma for each way to put trees together.  Operands come as they are printed, which is in
parentheses unless they are primary expressions. -/

/-- An expression that is not looser than a sum leads somewhere by itself. -/
theorem Sound.reread (h : Sound first L e.tokens e) (level : e.level = L) (le : .sum ≤ L) :
    e.Reread first :=
  ⟨level ▸ h, fun _ => h.leads le⟩

section Constructors

variable {note : Note} {left right condition yes no : Expr} {op : BinaryOp} {args : Args}

theorem Expr.Reread.constant {c : Constant} (h : c.token.Denotes c) :
    (Expr.constant note c).Reread first := by
  refine Sound.reread ⟨.constant h, fun _ _ same => ?_⟩ rfl (by decide)
  -- No constant is named `not`.
  obtain token : c.token = .word "not" := Option.some.inj same
  rw [token] at h
  obtain ⟨d, hd, _⟩ := h
  exact (namedConstant_ne hd).2 rfl

theorem Expr.Reread.column (ref : ColumnRef) : (Expr.column note ref).Reread first := by
  have renders := ref.renders_tokens
  exact Sound.reread ⟨.column renders, fun _ _ => renders.head_ne_not⟩ rfl (by decide)

theorem Expr.Reread.flowVariable (name : String) : (Expr.flowVariable note name).Reread first := by
  have renders := renders_flowVariableTokens name
  exact Sound.reread ⟨.flowVariable renders, fun _ _ => renders.head_ne_not⟩ rfl (by decide)

theorem Expr.Reread.minus
    (h : Sound false .primary (parenthesizedTokens (needsParens e) e.tokens) e) :
    (Expr.unary note .minus e).Reread first := by
  have operand : Readable .minus _ e := h.readable.loosenTo (by decide) fun le => absurd le (by decide)
  exact Sound.reread ⟨operand.negation, by simp [Expr.tokens]⟩ rfl (by decide)

/-- Behind a sign of equality a prefix `not` leads somewhere only in front of a parenthesis, where it
is read like a call. -/
theorem Expr.Reread.not
    (h : Sound true .primary (parenthesizedTokens (needsParens e) e.tokens) e)
    (inside : e.Reread true) : (Expr.unary note .not e).Reread first := by
  have operand : Readable .not _ e := (h.loosen (by decide) fun _ => rfl).readable
  refine ⟨⟨operand.not, fun _ lt => absurd lt (Nat.lt_irrefl _)⟩, fun bare => ?_⟩
  have parens : needsParens e = true := by
    rw [← Bool.not_eq_false]
    exact bare
  rw [Expr.tokens, parens]
  exact leads_not inside.readable

theorem Expr.Reread.binary
    (hl : Sound true .primary (parenthesizedTokens (needsParens left) left.tokens) left)
    (hr : Sound op.isLogical .primary (parenthesizedTokens (needsParens right) right.tokens) right) :
    (Expr.binary note left op right).Reread first := by
  have tight (L : Level) : L ≤ .primary := by cases L <;> decide
  have onLeft := hl.loosen (tight op.level.left) fun _ => rfl
  have onRight := hr.loosen (tight op.level.right) op.isLogical_of_right
  have sound : Sound first op.level (parenthesizedTokens (needsParens left) left.tokens ++
      op.token :: parenthesizedTokens (needsParens right) right.tokens)
      (.binary note left op right) := by
    refine ⟨onLeft.readable.binary op.spells_token onRight.readable, fun _ lt => ?_⟩
    rw [onLeft.readable.opens.head_append]
    exact onLeft.notPrefix rfl (Level.lt_of_lt_of_le lt op.level.le_left)
  refine ⟨sound, fun _ => ?_⟩
  by_cases looser : op.level < .sum
  · have sum : Readable .sum _ left :=
      hl.readable.loosenTo (by decide) fun le => absurd le (by decide)
    exact .looser sum op.spells_token looser onRight.readable
  · exact sound.leads (Nat.le_of_not_lt looser)

theorem Expr.Reread.conditional (hc : condition.Reread true) (hy : yes.Reread true)
    (hn : no.Reread true) : (Expr.conditional note condition yes no).Reread first := by
  have block : Readable .primary _ (.conditional note condition yes no) :=
    hc.readable.conditional hy.readable hn.readable
  exact Sound.reread ⟨block, by simp [Expr.tokens, blockTokens]⟩ rfl (by decide)

theorem Expr.Reread.call {callee : Callee} {name : String} {resolution : Option Resolution}
    (h : args.Reread) (ofName : callee = .ofName name) (notPrefix : first = true → name ≠ "not")
    (condition : name = "if" → ¬args.FailAsCondition) :
    (Expr.call note callee name args resolution).Reread first := by
  have call : Readable .primary _ (.call note callee name args resolution) :=
    .call h.tokens ofName fun same => h.noBlock (condition same)
  refine Sound.reread ⟨call, fun hfirst _ same => notPrefix hfirst ?_⟩ rfl (by decide)
  cases same
  rfl

end Constructors

end Trees

mutual

/-- By induction over the tree, one case for each way to put trees together. -/
theorem Expr.Printable.reread : ∀ {first : Bool} (e : Expr), e.Parsed → e.Printable first →
    Restored e.nodes → e.Reread first
  | _, .constant _ _, parsed, printable, restored =>
      .constant (Constant.writes_token parsed.2 printable restored.constant).2
  | _, .column _ ref, _, _, _ => .column ref
  | _, .flowVariable _ name, _, _, _ => .flowVariable name
  | _, .unary _ .minus arg, parsed, printable, restored => by
      have printable : arg.Printable false := printable
      exact .minus <| printable.operand fun first h =>
        Expr.Printable.reread arg parsed.2 h <| restored.mono fun _ h => .tail _ h
  | _, .unary _ .not arg, parsed, printable, restored => by
      have reread (first : Bool) (h : arg.Printable first) : arg.Reread first :=
        Expr.Printable.reread arg parsed.2 h <| restored.mono fun _ h => .tail _ h
      have printable : arg.Printable true := printable
      exact .not (printable.operand reread) (reread true printable)
  | _, .binary _ left _ right, parsed, printable, restored =>
      .binary
        (printable.1.operand fun first h => Expr.Printable.reread left parsed.2.1 h <|
          restored.mono fun _ h => .tail _ (List.mem_append_left _ h))
        (printable.2.operand fun first h => Expr.Printable.reread right parsed.2.2 h <|
          restored.mono fun _ h => .tail _ (List.mem_append_right _ h))
  | _, .conditional _ condition yes no, parsed, printable, restored =>
      .conditional
        (Expr.Printable.reread condition parsed.2.1 printable.1 <| restored.mono fun _ h =>
          .tail _ (List.mem_append_left _ (List.mem_append_left _ h)))
        (Expr.Printable.reread yes parsed.2.2.1 printable.2.1 <| restored.mono fun _ h =>
          .tail _ (List.mem_append_left _ (List.mem_append_right _ h)))
        (Expr.Printable.reread no parsed.2.2.2 printable.2.2 <| restored.mono fun _ h =>
          .tail _ (List.mem_append_right _ h))
  | _, .call _ _ _ args _, parsed, printable, restored => by
      obtain ⟨_, _, ofName, _, parsed⟩ := parsed
      obtain ⟨notPrefix, condition, printable⟩ := printable
      have arguments : args.Reread :=
        Args.Printable.reread args parsed printable <| restored.mono fun _ h => .tail _ h
      exact .call arguments ofName notPrefix condition

theorem Args.Printable.reread : ∀ args : Args, args.Parsed → args.Printable →
    Restored args.nodes → args.Reread
  | .nil, _, _, _ => ⟨.nil, fun _ => noBlock_nil⟩
  | .cons _ value rest, parsed, printable, restored =>
      .cons
        (Expr.Printable.reread value parsed.2.1 printable.1 <|
           restored.mono fun _ h => List.mem_append_left _ h)
        (Args.Printable.reread rest parsed.2.2 printable.2 <|
           restored.mono fun _ h => List.mem_append_right _ h)

end

/-- The printed form of a printable tree that was parsed is parsed as the same tree, up to notes and
to which NaN a constant is. -/
theorem parse_print {source : String} {e : Expr} (accepted : parse source = .ok e)
    (printable : e.Printable true) (restored : Restored e.nodes) :
    ∃ f, parse e.print = .ok f ∧ f.erase = e.erase := by
  have parsed : e.Parsed := Expr.parsed_of_parse accepted
  have spelled : Spelled e.tokens e.print.toList := (e.prints parsed printable restored).spelled
  exact (Expr.Printable.reread e parsed printable restored).readable.parse spelled

namespace Sample

/-- A block with a float, a negative offset, a call named `not`, and a call named `if` whose first
argument is named after a constant. -/
def printable : String :=
  "if ($[\"a b\", -1] > 1.5e-7) \x7b 1 - not(NaN) \x7d else \x7b if(PI=not (1 = 2), MIN_INTEGER) \x7d"

theorem printable_reparsed : ∃ e, parse printable = .ok e ∧ e.Printable true ∧ Restored e.nodes ∧
    ∃ f, parse e.print = .ok f ∧ f.erase = e.erase := by
  have checked : (parse printable).toOption.any
      (fun e => decide (e.Printable true ∧ Restored e.nodes)) = true := by
    decide +kernel
  cases accepted : parse printable with
  | error failure =>
      rw [accepted] at checked
      cases checked
  | ok e =>
      rw [accepted] at checked
      obtain ⟨printed, restored⟩ := of_decide_eq_true checked
      exact ⟨e, rfl, printed, restored, parse_print accepted printed restored⟩

/-- The text is parsed, but its printed form is not parsed as the same tree. -/
def Misprinted (source : String) : Prop :=
  ∃ e, parse source = .ok e ∧ Restored e.nodes ∧ ∀ f, parse e.print = .ok f → f.erase ≠ e.erase

/-- The size and the printed form of a tree, which tell the trees here apart. -/
def outline (e : Expr) : Nat × String := (e.erase.nodes.length, e.erase.print)

theorem misprinted_of_outline {source : String} (h : (parse source).toOption.any (fun e =>
    decide (Restored e.nodes) &&
      !(parse e.print).toOption.any (fun f => outline f == outline e)) = true) :
    Misprinted source := by
  cases accepted : parse source with
  | error failure =>
      rw [accepted] at h
      cases h
  | ok e =>
      rw [accepted] at h
      obtain ⟨restored, other⟩ := Bool.and_eq_true_iff.mp h
      refine ⟨e, accepted, of_decide_eq_true restored, fun f reread same => ?_⟩
      have equal : outline f = outline e := by rw [outline, outline, same]
      rw [reread] at other
      change (!(outline f == outline e)) = true at other
      rw [equal, beq_self_eq_true] at other
      cases other

/-- A negative float comes back as a minus sign and its magnitude, a call named `not` as a prefix, and
a call named `if` with an equation that spoils a condition not at all. -/
theorem misprinted : Misprinted "MIN_FLOAT" ∧ Misprinted "1 + not(1) * 2" ∧
    Misprinted "if(TRUE=(not 1))" := by
  refine ⟨misprinted_of_outline ?_, misprinted_of_outline ?_, misprinted_of_outline ?_⟩
  · decide +kernel
  · decide +kernel
  · decide +kernel

end Sample

end Rowwise
