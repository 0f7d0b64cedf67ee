import Rowwise.Proofs.Functions.ConditionalForms
import Rowwise.Proofs.Runner
import Rowwise.Proofs.Typing.Dependencies
import Rowwise.Proofs.Typing.Signatures

/-!
# Calls of aggregations over a table

A call of an aggregation names a column and sets a flag, each by name or by position, and the flag
need not be given at all.  `Expr.Aggregates` says of a call what it comes to over a table: the value
of the flag, and the type and the cells of the column.  Every call that is accepted aggregates some
column (`Expr.exists_aggregates`).

The computer of the call is the result of an accumulator to which all cells were added
(`Expr.Aggregates.computer`).  It does not look at rows, so that the call has one outcome for all of
them, a value or an error: `Expr.AnswersOver`.
-/

namespace Rowwise

open Eval Typing

/-! ## The flag of a call -/

/-- A parameter with a default is bound to an argument of the call that it accepts, or to its
default. -/
theorem get?_withDefault {params : List Param} {args : List ArgumentType}
    {bound : Arguments Binding} {p : Param} {v : Value} (distinct : (params.map Param.name).Nodup)
    (hp : p ∈ params) (default : p.arity = .optional (some v))
    (h : bindArguments params args = .ok bound) :
    (∃ i a, args[i]? = some a ∧ p.matcher.accepts a.2 = true ∧
        bound.get? p.name = some (.argument i)) ∨
      bound.get? p.name = some (.default v) := by
  obtain ⟨matching, slots⟩ := (bindArguments_ok_iff distinct).mp h
  obtain rfl : bound = ⟨_⟩ := congrArg Arguments.mk slots
  rw [Arguments.get?, all_slots (fun p => taken p (assignedTo params args p.name)) distinct hp]
  cases assigned : assignedTo params args p.name with
  | nil =>
      right
      rw [taken, default]
      rfl
  | cons i rest =>
      left
      have target : target? params args i = some p :=
        (mem_assignedTo distinct hp).mp (assigned ▸ List.mem_cons_self)
      have given := List.getElem?_eq_getElem (lt_of_target? target)
      exact ⟨i, _, given, matching.accepted i p _ target given, rfl⟩

namespace Aggregation

/-- The name of the flag, which leaves out MISSING cells of a count and NaN cells of the rest. -/
def flagName (a : Aggregation) : String :=
  if a.statistic = .count then "ignore_missing" else "ignore_nan"

theorem distinct_params (a : Aggregation) : (a.params.map Param.name).Nodup := by
  change ["column", a.flagName].Nodup
  unfold flagName
  split <;> decide

/-- The literals that the flag accepts. -/
theorem exists_boolean {v : Value} (accepts : (Matcher.kind .boolean).accepts v.valueType = true) :
    ∃ flag, v = .boolean flag := by
  have type : v.valueType = .required .boolean := beq_iff_eq.mp accepts
  cases v with
  | missing => cases type
  | of k flag =>
      cases type
      exact ⟨flag, rfl⟩

/-- Whatever literals a call has, a BOOLEAN is bound to the flag. -/
theorem exists_flag {a : Aggregation} {called : String} {args : Args} {bound : Arguments Value}
    (constants : ∀ b ∈ args.toList, ∃ note c, b.2 = .constant note c)
    (literal : bindLiterals a called args.toList = some bound) :
    ∃ flag, bound.get? a.flagName = some (.boolean flag) := by
  unfold bindLiterals at literal
  rw [literals_of_constants constants] at literal
  simp only [List.filterMap_map, Function.comp_def, List.filterMap_eq_map', List.map_map,
    List.zip_map'] at literal
  cases binding : bindArguments a.params
      (args.toList.map fun b => (b.1, (literalValue b.2).valueType)) with
  | error failure =>
      rw [binding] at literal
      cases literal
  | ok positions =>
      rw [binding] at literal
      cases literal
      rw [Arguments.get?_map]
      -- Either a literal is given for the flag, and it is accepted, or its default is taken.
      rcases get?_withDefault a.distinct_params (.tail _ (.head _)) rfl binding with
        ⟨i, given, read, accepts, position⟩ | default
      · change positions.get? a.flagName = _ at position
        rw [List.getElem?_map] at read
        obtain ⟨b, there, rfl⟩ := Option.map_eq_some_iff.mp read
        obtain ⟨flag, value⟩ := exists_boolean accepts
        refine ⟨flag, ?_⟩
        have read : (args.toList.map fun b => literalValue b.2).getD i .missing =
            .boolean flag := by
          rw [List.getD_eq_getElem?_getD, List.getElem?_map, there, Option.map_some,
            Option.getD_some, value]
        rw [position, Option.map_some]
        exact congrArg some read
      · change positions.get? a.flagName = _ at default
        rw [default]
        exact ⟨false, rfl⟩

/-- An accumulator starts with the flag and with no other argument. -/
theorem accumulator_flagged {a : Aggregation} {bound : Arguments Value} {flag : Bool}
    (flagged : bound.get? a.flagName = some (.boolean flag)) (base : Base) :
    a.accumulator bound base = a.accumulator ⟨[(a.flagName, [.boolean flag])]⟩ base := by
  obtain ⟨name, statistic, description, keywords⟩ := a
  cases statistic
  case count =>
    change bound.get? "ignore_missing" = _ at flagged
    simp only [accumulator, flagged]
    rfl
  all_goals
    change bound.get? "ignore_nan" = _ at flagged
    simp only [accumulator, flagged]
    rfl

end Aggregation

/-! ## The column of a call -/

variable {t : Table} {vars : FlowVariables} {e : Expr} {called : String} {flag : Bool}
  {type : ValueType} {cells : List Value}

/-- The call of an aggregation, as it is written, is accepted over the table.  Its flag has this
value, and the column that it names has the type and the cells. -/
inductive Expr.Aggregates (t : Table) (vars : FlowVariables) (called : String) (flag : Bool)
    (type : ValueType) (cells : List Value) : Expr → Prop where
  | intro {span : Span} {args : Args} {a : Aggregation} {bound : Arguments Value} {name : String}
      {result : ValueType} (known : Aggregation.library.get? called = some a)
      (accepted : ((Expr.call { span } .aggregation called args none).infer
        (Runner.rowContext t vars)).2 = .ok result)
      (literal : bindLiterals a called args.toList = some bound)
      (flagged : bound.get? a.flagName = some (.boolean flag))
      (named : args.columnName? = some name)
      (column : t.columns.get? name = some ⟨.supported type, cells.toArray⟩) :
      Aggregates t vars called flag type cells (.call { span } .aggregation called args none)

/-- What typing finds for a call that it accepts. -/
theorem Expr.aggregation_of_accepted {span : Span} {args : Args} {result : ValueType}
    (accepted : ((Expr.call { span } .aggregation called args none).infer
      (Runner.rowContext t vars)).2 = .ok result) :
    ∃ a bound name column, Aggregation.library.get? called = some a ∧
      (∀ b ∈ args.noteLiterals.toList, ∃ note c, b.2 = .constant note c) ∧
      bindLiterals a called args.toList = some bound ∧ args.columnName? = some name ∧
      Aggregation.columnName? bound = some name ∧ t.columnType (.named name 0) = .ok column ∧
      a.returnType column = .ok result ∧
      ((Expr.call { span } .aggregation called args none).infer (Runner.rowContext t vars)).1 =
        .call { span, type := some result } .aggregation called args.noteLiterals
          (some (.aggregation a column bound)) := by
  obtain ⟨a, bound, name, column, u, known, constants, literal, named, read, rule, new⟩ :=
    Expr.infer_aggregationCall_ok accepted
  have step := Expr.infer_aggregationCall known { span } args none
  rw [new] at step
  rw [step] at accepted ⊢
  cases accepted
  refine ⟨a, bound, name, column, known, constants, ?_, ?_, named, read, rule, rfl⟩
  · exact (args.bindLiterals_noteLiterals a called).symm.trans literal
  · rw [← args.columnName?_noteLiterals, ← columnName?_bindLiterals constants literal, named]

/-- A call with literals that can be bound is typed by the rule of the aggregation. -/
theorem Typing.inferAggregation_of_literals {ctx : TypingContext} {a : Aggregation} {span : Span}
    {args : List (Option String × Expr)} {bound : Arguments Value} {name : String}
    {column result : ValueType} (constants : ∀ b ∈ args, ∃ note c, b.2 = .constant note c)
    (literal : bindLiterals a called args = some bound)
    (named : Aggregation.columnName? bound = some name)
    (read : ctx.column (.named name 0) = .ok column) (rule : a.returnType column = .ok result) :
    inferAggregation ctx a called span args none =
      (some (.aggregation a column bound), .ok result) := by
  unfold bindLiterals at literal
  unfold inferAggregation
  rw [literals_of_constants constants] at literal ⊢
  simp only [List.filterMap_map, Function.comp_def, List.filterMap_eq_map', List.map_map,
    List.zip_map', List.filterMap_none, List.isEmpty_nil, Bool.not_true, Bool.false_eq_true,
    if_false] at literal ⊢
  generalize bindArguments a.params _ = binding at literal ⊢
  cases binding with
  | error failure => cases literal
  | ok positions =>
      dsimp only at literal ⊢
      generalize positions.map _ = values at literal ⊢
      cases literal
      rw [named]
      dsimp only
      rw [read]
      dsimp only
      rw [rule]
      rfl

/-- Every call that is accepted aggregates a column. -/
theorem Expr.exists_aggregates {span : Span} {args : Args} {result : ValueType}
    (accepted : ((Expr.call { span } .aggregation called args none).infer
      (Runner.rowContext t vars)).2 = .ok result) :
    ∃ flag type cells, (Expr.call { span } .aggregation called args none).Aggregates t vars called
      flag type cells := by
  obtain ⟨a, bound, name, column, known, constants, literal, named, _, read, _⟩ :=
    Expr.aggregation_of_accepted accepted
  obtain ⟨flag, flagged⟩ := Aggregation.exists_flag constants
    ((args.bindLiterals_noteLiterals a called).trans literal)
  obtain ⟨s, cells, found, _⟩ := Table.columnType_named.mp read
  exact ⟨flag, s, cells.toList, .intro known accepted literal flagged named found⟩

/-- What a table serves for a call that is bound to one of its columns. -/
theorem Table.aggregation_of_column {a : Aggregation} {bound : Arguments Value} {name : String}
    (named : Aggregation.columnName? bound = some name)
    (column : t.columns.get? name = some ⟨.supported type, cells.toArray⟩) (note : Note)
    (args : Args) :
    t.aggregation (.call note .aggregation called args (some (.aggregation a type bound))) =
      some (cells.foldl Accumulator.add (a.accumulator bound type.base)).result := by
  rw [aggregation, named]
  simp only [Option.bind_eq_bind, Option.bind_some, column, List.foldl_toArray]
  rfl

/-- The computer of the call is the result of the accumulator after all cells. -/
theorem Expr.Aggregates.computer (call : e.Aggregates t vars called flag type cells) :
    ∃ a bound result, Aggregation.library.get? called = some a ∧ a.returnType type = .ok result ∧
      bound.get? a.flagName = some (.boolean flag) ∧
      e.computer (Runner.rowContext t vars) (t.host vars) =
        .ok (cells.foldl Accumulator.add (a.accumulator bound type.base)).result := by
  obtain ⟨known, accepted, literal, flagged, named, column⟩ := call
  obtain ⟨a, bound, name, read, known', _, literal', named', bound', reads, rule, tree⟩ :=
    Expr.aggregation_of_accepted accepted
  -- Typing has found the same aggregation, literals and column that the call is said to have.
  cases known.symm.trans known'
  cases literal.symm.trans literal'
  cases named.symm.trans named'
  obtain ⟨_, _, column', rfl⟩ := Table.columnType_named.mp reads
  cases column.symm.trans column'
  refine ⟨_, _, _, known, rule, flagged, ?_⟩
  rw [Expr.computer, tree, Expr.build]
  dsimp only [Table.host]
  rw [Table.aggregation_of_column bound' column]

/-! ## Outcomes -/

/-- On every row of the table the expression ends with this, a value or an error. -/
def Expr.AnswersOver (t : Table) (vars : FlowVariables) (e : Expr) (r : Except EvalError Value) :
    Prop :=
  ∃ c, e.computer (Runner.rowContext t vars) (t.host vars) = .ok c ∧ ∀ m, c.value.Answers m r

theorem Expr.AnswersOver.unique {r s : Except EvalError Value} (hr : e.AnswersOver t vars r)
    (hs : e.AnswersOver t vars s) : r = s := by
  obtain ⟨c, built, answers⟩ := hr
  obtain ⟨d, built', answers'⟩ := hs
  cases built.symm.trans built'
  exact (answers ⟨0, default⟩).unique (answers' ⟨0, default⟩)

/-- A result that there is not for lack of cells. -/
theorem Accumulator.answers_missingResult (isFloat : Bool) (warning : String) (m : Moment) :
    (missingResult isFloat warning).value.Answers m (.ok .missing) := by
  have asked : (Eval.warn warning >>= fun _ => pure true).Answers m (.ok true) :=
    (answers_warn warning).bind (answers_pure true)
  cases isFloat <;> exact asked.bind (answers_pure Value.missing)

/-! ## Positional calls -/

/-- A call of an aggregation with its two literals in their order. -/
def Expr.aggregate (called name : String) (flag : Bool) : Expr :=
  .call {} .aggregation called
    (.cons none (.constant {} (.string name)) (.cons none (.constant {} (.boolean flag)) .nil)) none

/-- Such a call is accepted if the aggregation takes the column. -/
theorem Expr.aggregates_column {a : Aggregation} {name : String} {result : ValueType}
    (known : Aggregation.library.get? called = some a) (rule : a.returnType type = .ok result)
    (column : t.columns.get? name = some ⟨.supported type, cells.toArray⟩) :
    (aggregate called name flag).Aggregates t vars called flag type cells := by
  have known' : (Runner.rowContext t vars).aggregations.get? called = some a := known
  have read : (Runner.rowContext t vars).column (.named name 0) = .ok type :=
    Table.columnType_named.mpr ⟨type, _, column, (if_pos rfl).symm⟩
  have literal (strings booleans : Note) : bindLiterals a called
      [(none, .constant strings (.string name)), (none, .constant booleans (.boolean flag))] =
      some ⟨[("column", [.string name]), (a.flagName, [.boolean flag])]⟩ := by
    obtain ⟨_, statistic, _, _⟩ := a
    cases statistic <;> rfl
  have accepted : ((aggregate called name flag).infer (Runner.rowContext t vars)).2 =
      .ok result := by
    rw [aggregate, Expr.infer_aggregationCall known']
    dsimp only [Args.noteLiterals, Args.toList]
    rw [inferAggregation_of_literals (List.forall_mem_cons.mpr
      ⟨⟨_, _, rfl⟩, List.forall_mem_singleton.mpr ⟨_, _, rfl⟩⟩) (literal _ _) rfl read rule]
    rfl
  refine .intro known accepted (literal _ _) ?_ rfl column
  obtain ⟨_, statistic, _, _⟩ := a
  cases statistic <;> rfl

namespace Sample

/-- A table of one column. -/
def ofColumn (type : ValueType) (cells : List Value) : Table :=
  { Table.ofSize cells.length with
    columns := Named.empty.insert "c" ⟨.supported type, cells.toArray⟩ }

theorem aggregates {a : Aggregation} {result : ValueType}
    (known : Aggregation.library.get? called = some a) (rule : a.returnType type = .ok result)
    (flag : Bool) (cells : List Value) :
    (Expr.aggregate called "c" flag).Aggregates (ofColumn type cells) .empty called flag type
      cells := Expr.aggregates_column known rule rfl

end Sample

end Rowwise
