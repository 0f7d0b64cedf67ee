import Rowwise.Proofs.Functions.Absence
import Rowwise.Proofs.Functions.Searches
import Rowwise.Proofs.Runner

/-!
# Absent operands of arithmetic

The value of arithmetic is MISSING if that of an operand is.  `Functions.absent_operand` says so for
the operand that is asked first whatever the other one is, and for the other one wherever the first
one answers whether it is missing.  It need not compute for that, so that an operand which would end
with an error does no harm (`Sample.overflow_unnoticed`).  But some functions compute to find out,
and so do conditionals, `and` and `or`: an error in such an operand that is asked first comes before
the absence of the other one (`Sample.overflow_first`).
-/

namespace Rowwise

open Eval Functions Typing

variable {m : Moment} {ctx : TypingContext} {host : Host} {e : Expr} {c : Computer}

/-! ## Hosts -/

/-- No row is read, so that a computer fits a type as soon as it has its kind. -/
def Regime.nowhere : Regime := .lenient fun _ => False

/-- Whatever the host serves is settled at the moment. -/
structure Host.Answering (m : Moment) (host : Host) : Prop where
  column : ∀ ref c, host.column ref = some c → c.Settled m
  flowVariable : ∀ name c, host.flowVariable name = some c → c.Settled m
  aggregation : ∀ e c, host.aggregation e = some c → c.Settled m

theorem Accumulator.result_settled (a : Accumulator) : a.result.Settled m := by
  have warned (isFloat : Bool) (warning : String) : (missingResult isFloat warning).Settled m := by
    cases isFloat <;> exact ⟨true, (answers_warn warning).bind (answers_pure true)⟩
  unfold Accumulator.result
  cases a with
  | extreme e =>
      dsimp only
      split
      · exact warned _ _
      split
      · exact Computer.constant_settled _
      split
      · exact Computer.constant_settled _
      split
      · exact Computer.constant_settled _
      · exact warned _ _
  | sum s =>
      dsimp only
      split
      · exact warned _ _
      split
      · split
        · exact Computer.constant_settled _
        · -- An overflow fails when it is read, but not when it is asked for.
          exact .of (Source.present_settled _)
      split
      · exact .of (Source.present_settled _)
      · exact Computer.constant_settled _
  | collected c =>
      dsimp only
      split
      · exact warned _ _
      split
      · exact warned _ _
      · exact Computer.constant_settled _
  | count => exact Computer.constant_settled _

/-- So is all that a table serves, at any moment. -/
theorem Table.host_answering (t : Table) (vars : FlowVariables) : (t.host vars).Answering m where
  column ref c served := by
    obtain ⟨base, read, rfl⟩ := Table.column_served served
    exact Computer.ofCells_settled base read
  flowVariable name c served := by
    obtain ⟨v, _, rfl⟩ := Option.map_eq_some_iff.mp served
    exact Computer.constant_settled v
  aggregation e c served := by
    obtain ⟨a, rfl⟩ := Table.aggregation_served served
    exact a.result_settled

/-! ## Expressions -/

/-- Whether values are computed to find out if the value of the node is missing. -/
def Expr.looksAhead : Expr → Bool
  | .conditional .. => true
  | .binary _ _ op _ => op.isLogical
  | .call _ .function name _ _ => decidingNames.contains name
  | _ => false

theorem Expr.WellTyped.settles (functions : ctx.functions = library) (h : e.WellTyped ctx)
    (answering : host.Answering m) (plain : e.looksAhead = false) : host.Settles m e := by
  cases e with
  | column note ref => exact answering.column ref
  | flowVariable note name => exact answering.flowVariable name
  | binary note left op right => exact plain
  | conditional note condition yes no => cases plain
  | call note callee name args resolution =>
      cases callee with
      | aggregation => exact answering.aggregation _
      | function =>
          obtain ⟨_, f, r, t, hf, rfl, binding, _⟩ := h
          rw [functions] at hf
          obtain ⟨found, rfl⟩ := Library.of_get?_ofList hf
          obtain ⟨_, _, _⟩ := binding
          refine builtIn_settles found fun deciding => ?_
          rw [looksAhead, List.contains_iff_mem.mpr deciding] at plain
          cases plain
  | _ => trivial

/-- Where no node looks ahead, it is answered whether the value of the tree is missing. -/
theorem Expr.WellTyped.settled (functions : ctx.functions = library) (h : e.WellTyped ctx)
    (answering : host.Answering m) (plain : ∀ n ∈ e.nodes, n.looksAhead = false)
    (built : e.build host = .ok c) : c.Settled m := by
  refine Expr.ensures_build e (fun n hn => ?_) c built
  exact (h.of_mem_nodes n hn).settles functions answering (plain n hn)

/-- A tree over names that are served has a computer, which has the kind of the tree. -/
theorem Expr.WellTyped.computes_nowhere (functions : ctx.functions = library)
    (h : e.WellTyped ctx) (serves : ∀ n ∈ e.nodes, host.Serves .nowhere n) :
    e.Computes .nowhere host := by
  refine h.computes fun n hn => ?_
  have typed := h.of_mem_nodes n hn
  have served := serves n hn
  cases n with
  | call note callee name args resolution =>
      cases callee with
      | aggregation => exact served
      | function =>
          exact typed.supports_function functions trivial (fun _ => .inr rfl)
            fun _ none => none.elim
  | _ => exact served

theorem Expr.Computes.base_eq {R : Regime} (h : e.Computes R host) (built : e.build host = .ok c) :
    c.base = e.note.base := by
  obtain ⟨d, t, hd, noted, fits⟩ := h
  cases built.symm.trans hd
  rw [fits.base_eq, Note.base, show e.note.type = some t from noted]
  rfl

/-! ## Arithmetic -/

/-- The operands of arithmetic in the order in which they are asked whether they are missing: from
left to right, but a duration before a number that it is multiplied by. -/
abbrev Expr.inOrder (left : Expr) (op : BinaryOp) (right : Expr) : Expr × Expr :=
  Operator.inOrder (fun e => e.note.base) op left right

namespace Functions

/-- Arithmetic with an operand that is MISSING is MISSING, whichever operand that is and whatever
the other one is, unless the other one is asked first and that already fails: then it ends with the
same error.  An operand that contains nothing which looks ahead does not fail when it is asked. -/
theorem absent_operand {note : Note} {left right : Expr} {op : BinaryOp}
    (functions : ctx.functions = library)
    (typed : (Expr.binary note left op right).WellTyped ctx) (arithmetic : op.isArithmetic)
    (text : note.base ≠ some .string)
    (serves : ∀ n ∈ (Expr.binary note left op right).nodes, host.Serves .nowhere n) :
    ∃ first second whole,
      (Expr.inOrder left op right).1.build host = .ok first ∧
      (Expr.inOrder left op right).2.build host = .ok second ∧
      (Expr.binary note left op right).build host = .ok whole ∧
      ∀ m,
        (first.value.Answers m (.ok .missing) → whole.value.Answers m (.ok .missing)) ∧
        (second.value.Answers m (.ok .missing) →
          (∀ log, (whole.value.at_ m log).1 =
            (first.isMissing.at_ m log).1.map fun _ => .missing) ∧
          (host.Answering m →
            (∀ n ∈ (Expr.inOrder left op right).1.nodes, n.looksAhead = false) →
            whole.value.Answers m (.ok .missing))) := by
  have computesLeft := typed.1.computes_nowhere functions fun n hn =>
    serves n (.tail _ (List.mem_append_left _ hn))
  have computesRight := typed.2.1.computes_nowhere functions fun n hn =>
    serves n (.tail _ (List.mem_append_right _ hn))
  obtain ⟨whole, t, built, noted, -⟩ := typed.computes_nowhere functions serves
  -- The computer of the node is that of the operator over those of the operands.
  have parts := built
  rw [Expr.build] at parts
  obtain ⟨type, htype, parts⟩ := Except.bind_ok parts
  obtain ⟨l, hl, parts⟩ := Except.bind_ok parts
  obtain ⟨r, hr, parts⟩ := Except.bind_ok parts
  have output : note.base = type.base := Evaluation.base_of_typeOf htype
  have asks := Operator.isMissing_of_binary arithmetic (by rwa [← output]) parts
  have order : (Expr.inOrder left op right).1.build host =
        .ok (Operator.inOrder Computer.base op l r).1 ∧
      (Expr.inOrder left op right).2.build host =
        .ok (Operator.inOrder Computer.base op l r).2 := by
    unfold Expr.inOrder Operator.inOrder
    rw [computesLeft.base_eq hl, computesRight.base_eq hr]
    split
    · exact ⟨hr, hl⟩
    · exact ⟨hl, hr⟩
  have typedFirst : (Expr.inOrder left op right).1.WellTyped ctx := by
    unfold Expr.inOrder Operator.inOrder
    split
    · exact typed.2.1
    · exact typed.1
  refine ⟨_, _, whole, order.1, order.2, built, fun m => ⟨asks.missing_of_first, fun gone => ?_⟩⟩
  refine ⟨asks.at_value_of_second gone, fun answering plain => ?_⟩
  exact asks.missing_of_second (typedFirst.settled functions answering plain order.1) gone

/-! ## A function that computes to find out -/

section Dates

variable {year month day : Source Int64} {x y z : Expr}

/-- The source of a call of `make_date`, asked and computed with its arguments. -/
def dateSource (year month day : Source Int64) : Source Date :=
  Source.partialOver [.of .integer year, .of .integer month, .of .integer day] do
    makeDate (← year.compute) (← month.compute) (← day.compute)

theorem compiles_makeDate (functions : ctx.functions = library) {o p q : Bool}
    (hx : x.Compiles ctx host (.of .integer o) (.of .integer year))
    (hy : y.Compiles ctx host (.of .integer p) (.of .integer month))
    (hz : z.Compiles ctx host (.of .integer q) (.of .integer day)) (span : Span) :
    (Expr.callOf span "make_date" [x, y, z]).Compiles ctx host (.optionalOf .localDate)
      (.of .localDate (dateSource year month day)) := by
  have found : ctx.functions.get? "make_date" = some making[0] :=
    get?_of_mem_builtIns functions (f := making[0]) (by simp [builtIns, making])
  have only : making[0].overloads = [⟨[calendarIntegerParam "year", calendarIntegerParam "month",
    calendarIntegerParam "day"] ++ [], .exactly (.optionalOf .localDate), makeDateBuilder⟩] := rfl
  exact Expr.compiles_callOf found only (by decide) (List.forall_mem_nil _) (by decide)
    (.cons hx (.cons hy (.cons hz .nil)))
    (.cons (accepts_kindOrMissing .integer o) (.cons (accepts_kindOrMissing .integer p)
      (.cons (accepts_kindOrMissing .integer q) .nil)))
    rfl rfl span

/-- A year that is no number of 32 bits is an error as soon as it is asked whether there is a
date. -/
theorem dateSource_fails {a b c : Int64} (ha : year.Holds m (some a)) (hb : month.Holds m (some b))
    (hc : day.Holds m (some c)) (large : Word32.ofInt? a.toInt = none) :
    (dateSource year month day).isMissing.Answers m (.error (.failure .dateOverflow)) := by
  have there : (Computer.anyMissing
      [.of .integer year, .of .integer month, .of .integer day]).Answers m (.ok false) :=
    ha.isMissing.bind (hb.isMissing.bind (hc.isMissing.bind (answers_pure false)))
  have refused : (Builder.word .dateOverflow a).Answers m (.error (.failure .dateOverflow)) := by
    unfold Builder.word
    rw [large]
    exact answers_fail _
  have fails : (makeDate a b c).Answers m (.error (.failure .dateOverflow)) := refused.bind_error _
  refine there.bind (Answers.bind_error ?_ _)
  exact ha.compute.bind (hb.compute.bind (hc.compute.bind fails))

end Dates

end Functions

namespace Sample

/-- The longest duration. -/
def longest : Duration := ⟨durationLimit, by decide⟩

/-- A column and flow variables of durations, and the built-in functions. -/
def spans : TypingContext :=
  { context with
    column := fun _ => .ok (.optionalOf .timeDuration)
    flowVariable := fun _ => .ok (.required .timeDuration)
    functions := Functions.library }

/-- A host whose column is empty, and whose flow variables hold the longest duration. -/
def spanHost : Host :=
  { Host.empty with
    column := fun _ => some (.ofCells (some .timeDuration) fun _ => .missing)
    flowVariable := fun _ => some (.constant (.of .timeDuration longest)) }

/-- `$$longest + $$longest`, with its types. -/
def doubled : Expr :=
  .binary { type := some (.required .timeDuration) }
    (.flowVariable { type := some (.required .timeDuration) } "longest") .plus
    (.flowVariable { type := some (.required .timeDuration) } "longest")

/-- `$$longest + $$longest + $gap`, with its types. -/
def doubledAndGap : Expr :=
  .binary { type := some (.optionalOf .timeDuration) } doubled .plus
    (.column { type := some (.optionalOf .timeDuration) } (.named "gap" 0))

theorem doubledAndGap_wellTyped : doubledAndGap.WellTyped spans :=
  ⟨⟨⟨_, rfl, rfl⟩, ⟨_, rfl, rfl⟩, _, _, _, rfl, rfl, rfl, rfl⟩, ⟨_, rfl, rfl⟩, _, _, _, rfl, rfl,
    rfl, rfl⟩

theorem spanHost_answering : spanHost.Answering m where
  column _ c served := by
    cases served
    exact Computer.ofCells_settled _ _
  flowVariable _ c served := by
    cases served
    exact Computer.constant_settled _
  aggregation _ c served := nomatch served

/-- The sum of both durations is out of range.  But nobody asks for it, as the third one is MISSING
and so is the whole. -/
theorem overflow_unnoticed :
    ∃ first whole, doubled.build spanHost = .ok first ∧ doubledAndGap.build spanHost = .ok whole ∧
      first.value.Answers ⟨0, default⟩ (.error (.failure (.outOfRange (some .timeDuration)))) ∧
      whole.value.Answers ⟨0, default⟩ (.ok .missing) := by
  have served : ∀ n ∈ doubledAndGap.nodes, spanHost.Serves .nowhere n := by
    intro n hn
    simp only [doubledAndGap, doubled, Expr.nodes, List.cons_append, List.nil_append,
      List.mem_cons, List.not_mem_nil, or_false] at hn
    obtain rfl | rfl | rfl | rfl | rfl := hn
    case inr.inr.inl | inr.inr.inr.inl | inr.inr.inr.inr =>
      intro t noted
      cases noted
      exact ⟨_, rfl, .of fun _ none => none.elim⟩
    all_goals trivial
  have functions : spans.functions = Functions.library := rfl
  obtain ⟨first, second, whole, hfirst, hsecond, built, absent⟩ :=
    Functions.absent_operand functions doubledAndGap_wellTyped rfl (by decide) served
  have gone : second.value.Answers ⟨0, default⟩ (.ok .missing) := by
    cases hsecond
    exact answers_moment.bind (answers_pure _)
  -- The first operand does not look ahead, and nothing asks for its value.
  have plain : ∀ n ∈ doubled.nodes, n.looksAhead = false := by
    intro n hn
    simp only [doubled, Expr.nodes, List.cons_append, List.nil_append, List.mem_cons,
      List.not_mem_nil, or_false] at hn
    obtain rfl | rfl | rfl := hn <;> rfl
  refine ⟨first, whole, hfirst, built, ?_, ((absent _).2 gone).2 spanHost_answering plain⟩
  cases hfirst
  have held : (Source.constant longest).Holds ⟨0, default⟩ (some longest) :=
    Source.constant_holds longest
  have sum : Operator.addDurations .plus longest longest = none := by decide +kernel
  have overflow :
      (inRange (some .timeDuration) (Operator.addDurations .plus longest longest)).Answers
        ⟨0, default⟩ (.error (.failure (.outOfRange (some .timeDuration)))) := by
    rw [sum]
    exact answers_fail _
  have ends := held.ends_combine held (f := fun x y =>
    inRange (some .timeDuration) (Operator.addDurations .plus x y)) overflow
  exact ends.there.bind (ends.value.map_error _)

/-- A column of dates, and the built-in functions. -/
def dates : TypingContext :=
  { context with
    column := fun _ => .ok (.optionalOf .localDate)
    functions := Functions.library }

/-- A host whose column is empty. -/
def dateHost : Host :=
  { Host.empty with column := fun _ => some (.ofCells (some .localDate) fun _ => .missing) }

/-- `$day` -/
def noDay : Expr := .column {} (.named "day" 0)

/-- `make_date(99999999999, 1, 1)` -/
def farDay : Expr :=
  .callOf {} "make_date" [.constant {} (.integer 99999999999), .constant {} (.integer 1),
    .constant {} (.integer 1)]

/-- One of the two days is MISSING, and there is no such day as the other one.  On the left, it is
asked first and ends the evaluation with an error; on the right, the difference is MISSING. -/
theorem overflow_first :
    ∃ d l r, noDay.Compiles dates dateHost (.optionalOf .localDate) d ∧
      d.value.Answers ⟨0, default⟩ (.ok .missing) ∧
      (Expr.binary {} farDay .minus noDay).Compiles dates dateHost (.optionalOf .dateDuration) l ∧
      l.value.Answers ⟨0, default⟩ (.error (.failure .dateOverflow)) ∧
      (Expr.binary {} noDay .minus farDay).Compiles dates dateHost (.optionalOf .dateDuration) r ∧
      r.value.Answers ⟨0, default⟩ (.ok .missing) := by
  have integer (n : Int64) : (Expr.constant {} (.integer n)).Compiles dates dateHost
      (.required .integer) (.of .integer (.constant n)) := ⟨rfl, rfl⟩
  have functions : dates.functions = Functions.library := rfl
  have far := Functions.compiles_makeDate functions (integer 99999999999) (integer 1) (integer 1) {}
  have no : noDay.Compiles dates dateHost (.optionalOf .localDate)
      (.ofCells (some .localDate) fun _ => .missing) := ⟨rfl, rfl⟩
  have large : Word32.ofInt? (99999999999 : Int64).toInt = none := by decide
  have fails := Functions.dateSource_fails (m := ⟨0, default⟩) (Source.constant_holds 99999999999)
    (Source.constant_holds 1) (Source.constant_holds 1) large
  have gone : (Computer.ofCells (some .localDate) fun _ => .missing).isMissing.Answers ⟨0, default⟩
      (.ok true) := answers_moment.bind (answers_pure _)
  refine ⟨_, _, _, no, Computer.value_missing_iff.mpr gone, far.binary no rfl rfl {}, ?_,
    no.binary far rfl rfl {}, ?_⟩
  · exact (fails.bind_error _).bind_error _
  · exact Computer.value_missing_iff.mpr (either_of_first gone)

end Sample

end Rowwise
