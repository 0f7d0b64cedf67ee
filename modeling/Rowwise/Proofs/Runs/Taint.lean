import Rowwise.Proofs.Runs.EditorChecks
import Rowwise.Proofs.Typing.Dependencies

/-!
# Readers of a broken expression

The checks thread what the outputs so far have become through the expressions.  The output of an
expression with errors becomes one that cannot be read, and stays so until another expression
produces it again (`checkInOrder_feeds`).  An expression that is accepted has found everything that
its nodes read, so that a reader of such an output is not accepted: `mapperStep_reads` and
`variableStep_reads`.

There is one way for an expression to be in error and its output to stay readable: an expression
over a table which can only be MISSING is reported for that, and yet its column is passed on.  The
check of flow variables does not let it pass.
-/

namespace Rowwise

namespace Diagnostics

variable {i j : Nat} {name source output : String} {expressions outputs : List String}

/-- One of the remarks is an error. -/
def Faulty (remarks : List Diagnostic) : Prop := ∃ d ∈ remarks, d.severity = .error

/-- Output `i` has a name that no output between it and position `j` has again. -/
structure Feeds (outputs : List String) (name : String) (i j : Nat) : Prop where
  later : i < j
  produced : outputs[i]? = some name
  last : ∀ k, i < k → k < j → outputs[k]? ≠ some name

/-! ## What an expression finds of the outputs before it -/

section Order

variable {α β : Type} (step : Nat → String → String → Named α → β × α) {seen : Named α}
  {a : Option α}

/-- What the steps before an expression preserve holds of what it finds. -/
theorem checkInOrder_invariant {I : Named α → Prop} (index : Nat)
    (length : expressions.length = outputs.length) (start : I seen)
    (hj : expressions[j]? = some source)
    (keeps : ∀ k < j, ∀ output, outputs[k]? = some output → ∀ number source s, I s →
      I (s.insert output (step number source output s).2)) :
    ∃ output before, outputs[j]? = some output ∧ I before ∧
      (checkInOrder step index expressions outputs seen)[j]? =
        some (step (index + j) source output before).1 := by
  induction j generalizing index expressions outputs seen with
  | zero =>
      obtain _ | ⟨_, expressions⟩ := expressions
      · cases hj
      · obtain _ | ⟨output, outputs⟩ := outputs
        · cases length
        · cases hj
          exact ⟨output, seen, rfl, start, rfl⟩
  | succ j ih =>
      obtain _ | ⟨first, expressions⟩ := expressions
      · cases hj
      · obtain _ | ⟨output, outputs⟩ := outputs
        · cases length
        · have next := keeps 0 (Nat.succ_pos j) output rfl index first seen start
          obtain ⟨output', before, houtput, hbefore, found⟩ :=
            ih (index + 1) (Nat.succ.inj length) next hj
              fun k hk => keeps (k + 1) (Nat.succ_lt_succ hk)
          rw [Nat.add_right_comm] at found
          exact ⟨output', before, houtput, hbefore, found⟩

/-- What is under a name, or that nothing is, stays so up to the next output of that name. -/
theorem checkInOrder_kept (index : Nat) (length : expressions.length = outputs.length)
    (held : seen.get? name = a) (hj : expressions[j]? = some source)
    (free : ∀ k < j, outputs[k]? ≠ some name) :
    ∃ output before, outputs[j]? = some output ∧ before.get? name = a ∧
      (checkInOrder step index expressions outputs seen)[j]? =
        some (step (index + j) source output before).1 := by
  refine checkInOrder_invariant step (I := fun s => s.get? name = a) index length held hj ?_
  intro k hk output houtput number source s hs
  have other : name ≠ output := fun same => free k hk (same ▸ houtput)
  rw [Named.get?_insert, if_neg other, hs]

/-- An expression finds what the last one of a name has come to. -/
theorem checkInOrder_feeds (index : Nat) (seen : Named α)
    (length : expressions.length = outputs.length)
    (feeds : Feeds outputs name i j) (hj : expressions[j]? = some source) :
    ∃ earlier before output after,
      (checkInOrder step index expressions outputs seen)[i]? =
        some (step (index + i) earlier name before).1 ∧
      (checkInOrder step index expressions outputs seen)[j]? =
        some (step (index + j) source output after).1 ∧
      after.get? name = some (step (index + i) earlier name before).2 := by
  -- The induction is on the position of the producer, with which that of the reader goes down.
  induction i generalizing index j expressions outputs seen with
  | zero =>
      obtain ⟨later, produced, last⟩ := feeds
      obtain _ | j := j
      · cases later
      obtain _ | ⟨first, expressions⟩ := expressions
      · cases hj
      · obtain _ | ⟨_, outputs⟩ := outputs
        · cases length
        · cases produced
          -- No later output has the name, so that the reader still finds what is put there now.
          have held : (seen.insert name (step index first name seen).2).get? name =
              some (step index first name seen).2 := by rw [Named.get?_insert, if_pos rfl]
          obtain ⟨output, after, _, hafter, found⟩ :=
            checkInOrder_kept step (index + 1) (Nat.succ.inj length) held hj
              fun k hk => last (k + 1) (Nat.succ_pos k) (Nat.succ_lt_succ hk)
          rw [Nat.add_right_comm] at found
          exact ⟨first, seen, output, after, rfl, found, hafter⟩
  | succ i ih =>
      obtain ⟨later, produced, last⟩ := feeds
      obtain _ | j := j
      · cases later
      obtain _ | ⟨first, expressions⟩ := expressions
      · cases hj
      · obtain _ | ⟨_, outputs⟩ := outputs
        · cases length
        · have rest : Feeds outputs name i j :=
            ⟨Nat.lt_of_succ_lt_succ later, produced,
              fun k hi hj => last (k + 1) (Nat.succ_lt_succ hi) (Nat.succ_lt_succ hj)⟩
          obtain ⟨earlier, before, output, after, hi, hj, hafter⟩ :=
            ih (index + 1) _ (Nat.succ.inj length) rest hj
          rw [Nat.add_right_comm] at hi hj hafter
          exact ⟨earlier, before, output, after, hi, hj, hafter⟩

end Order

/-! ## Remarks that are errors -/

@[simp] theorem severity_ofCompileError (e : CompileError) :
    (Diagnostic.ofCompileError e).severity = .error := by
  unfold Diagnostic.ofCompileError
  dsimp only
  split <;> rfl

theorem severity_premature {access : Access} {index : Nat} {appended : List (Option String)}
    {e : Expr} : ∀ d ∈ premature access index appended e, d.severity = .error := by
  intro d hd
  obtain ⟨node, _, remark⟩ := List.mem_filterMap.mp hd
  obtain ⟨read, _, remark⟩ := Option.bind_eq_some_iff.mp remark
  obtain ⟨owner, _, remark⟩ := Option.bind_eq_some_iff.mp remark
  split at remark
  · cases remark
  · cases remark
    rfl

/-! ## One expression -/

section Step

variable {vars : FlowVariables} {listed : List (Option String)} {index : Nat} {columns : Overlay}
  {known : VariableOverlay} {e node : Expr}

/-- What an expression that computes a column is typed over. -/
def mapperContext (vars : FlowVariables) (columns : Overlay) : TypingContext :=
  { Runner.rowContext default vars with column := overlayType columns }

/-- What an expression that computes a flow variable is typed over. -/
def variableContext (known : VariableOverlay) : TypingContext :=
  { Runner.variableContext .empty with flowVariable := overlayVariable known }

/-- Either there is an error, and the output cannot be read, or the expression is typed. -/
theorem mapperStep_cases (vars : FlowVariables) (listed : List (Option String)) (index : Nat)
    (source output : String) (columns : Overlay) :
    (∃ d ds, d.severity = .error ∧ mapperStep vars listed index source output columns =
        (⟨d :: ds, unknownType⟩, .error (invalidOutput index "column" output))) ∨
      ∃ e t, parse source = .ok e ∧ (e.infer (mapperContext vars columns)).2 = .ok t ∧
        mapperStep vars listed index source output columns =
          (⟨if t.isMissing then [.error Runner.mustNotBeMissing (some e.span)] else [],
            t.base.name⟩, .ok (.supported t)) := by
  -- A step is refused by the parser, for a column that is read too early, or by typing.
  unfold mapperStep
  cases parsed : parse source with
  | error issue => exact .inl ⟨_, [], severity_ofCompileError _, rfl⟩
  | ok e =>
      dsimp only
      cases early : premature columnAccess index listed e with
      | cons d ds => exact .inl ⟨d, ds, severity_premature d (by rw [early]; exact .head ds), rfl⟩
      | nil =>
          obtain ⟨t, _, accepted, _⟩ | ⟨errors, _, refused, some_⟩ :=
            infer_cases parsed (mapperContext vars columns) rfl rfl
          · refine .inr ⟨e, t, rfl, accepted, ?_⟩
            rw [mapperContext] at accepted
            rw [accepted]
          · obtain ⟨issue, issues, rfl⟩ := List.exists_cons_of_ne_nil some_
            refine .inl ⟨_, issues.map .ofCompileError, severity_ofCompileError issue, ?_⟩
            rw [mapperContext] at refused
            rw [refused]
            rfl

theorem variableStep_cases (listed : List (Option String)) (index : Nat) (source output : String)
    (known : VariableOverlay) :
    (∃ d ds, d.severity = .error ∧ variableStep listed index source output known =
        (d :: ds, .error (.absent (invalidOutput index "flow variable" output)))) ∨
      ∃ e t, parse source = .ok e ∧ (e.infer (variableContext known)).2 = .ok t ∧
        variableStep listed index source output known = ([], .ok t) := by
  unfold variableStep
  cases parsed : parse source with
  | error issue => exact .inl ⟨_, [], severity_ofCompileError _, rfl⟩
  | ok e =>
      dsimp only
      cases early : premature variableAccess index listed e with
      | cons d ds => exact .inl ⟨d, ds, severity_premature d (by rw [early]; exact .head ds), rfl⟩
      | nil =>
          obtain ⟨t, _, accepted, _⟩ | ⟨errors, _, refused, some_⟩ :=
            infer_cases parsed (variableContext known) rfl rfl
          · have inferred := accepted
            rw [variableContext] at inferred
            rw [inferred]
            by_cases optional : t.isOptional = true
            · exact .inl ⟨.error Runner.mustNotBeMissing (some e.span), [], rfl, if_pos optional⟩
            · exact .inr ⟨e, t, rfl, accepted, if_neg optional⟩
          · obtain ⟨issue, issues, rfl⟩ := List.exists_cons_of_ne_nil some_
            refine .inl ⟨_, issues.map .ofCompileError, severity_ofCompileError issue, ?_⟩
            rw [variableContext] at refused
            rw [refused]
            rfl

/-- A column that is in error cannot be read, unless it can only be MISSING. -/
theorem mapperStep_faulty
    (faulty : Faulty (mapperStep vars listed index source output columns).1.diagnostics) :
    (mapperStep vars listed index source output columns).1.inferredType =
        ValueType.missing.base.name ∨
      ∃ message, (mapperStep vars listed index source output columns).2 = .error message := by
  obtain ⟨d, ds, _, step⟩ | ⟨e, t, _, _, step⟩ :=
    mapperStep_cases vars listed index source output columns
  · exact .inr ⟨_, congrArg Prod.snd step⟩
  · rw [step] at faulty ⊢
    cases t with
    | missing => exact .inl rfl
    | of k optional =>
        obtain ⟨d, hd, _⟩ := faulty
        cases hd

/-- An expression that reads a column which cannot be read, or is not there, is in error. -/
theorem mapperStep_reads (parsed : parse source = .ok e) (hnode : node ∈ e.nodes)
    (reads : node.readColumn? = some name) (unread : ∀ t, columns.get? name ≠ some (.ok t)) :
    Faulty (mapperStep vars listed index source output columns).1.diagnostics := by
  obtain ⟨d, ds, severe, step⟩ | ⟨e', t, parsed', accepted, _⟩ :=
    mapperStep_cases vars listed index source output columns
  · rw [step]
    exact ⟨d, .head ds, severe⟩
  · cases parsed.symm.trans parsed'
    have coherent : e.Coherent [] := (Expr.parsed_of_parse parsed).untyped.coherent
    obtain ⟨offset, s, found⟩ := Expr.column_of_accepted coherent accepted hnode reads
    simp only [mapperContext, overlayType, ColumnRef.name?, Option.bind_some] at found
    split at found
    · cases found
    · next t readable => exact absurd readable (unread t)
    · cases found

/-- A flow variable that is in error cannot be read. -/
theorem variableStep_faulty (faulty : Faulty (variableStep listed index source output known).1) :
    ∃ reason, (variableStep listed index source output known).2 = .error reason := by
  obtain ⟨d, ds, _, step⟩ | ⟨e, t, _, _, step⟩ :=
    variableStep_cases listed index source output known
  · exact ⟨_, congrArg Prod.snd step⟩
  · rw [step] at faulty
    obtain ⟨d, hd, _⟩ := faulty
    cases hd

/-- An expression that reads a flow variable which cannot be read is in error. -/
theorem variableStep_reads (parsed : parse source = .ok e) (hnode : node ∈ e.nodes)
    (reads : node.ownFlowVariable? = some name) {reason : Unresolved}
    (broken : known.get? name = some (.error reason)) :
    Faulty (variableStep listed index source output known).1 := by
  obtain ⟨d, ds, severe, step⟩ | ⟨e', t, parsed', accepted, _⟩ :=
    variableStep_cases listed index source output known
  · rw [step]
    exact ⟨d, .head ds, severe⟩
  · cases parsed.symm.trans parsed'
    have coherent : e.Coherent [] := (Expr.parsed_of_parse parsed).untyped.coherent
    obtain ⟨s, found⟩ := Expr.flowVariable_of_accepted coherent accepted hnode reads
    simp only [variableContext, overlayVariable, broken, Option.getD_some] at found
    cases found

end Step

/-! ## All expressions -/

/-- An expression reads a column, in an access or as that of an aggregation. -/
def ReadsColumn (source name : String) : Prop :=
  ∃ e, parse source = .ok e ∧ ∃ node ∈ e.nodes, node.readColumn? = some name

/-- An expression reads a flow variable. -/
def ReadsVariable (source name : String) : Prop :=
  ∃ e, parse source = .ok e ∧ ∃ node ∈ e.nodes, node.ownFlowVariable? = some name

/-- In the remarks on a list of expressions, whatever reads the output of an expression in error is
in error as well, unless the former is excused. -/
def TaintsReaders (reads : String → String → Prop) (excused : Nat → Prop)
    (expressions outputs : List String) (reports : List (List Diagnostic)) : Prop :=
  ∀ i j name source, Feeds outputs name i j → expressions[j]? = some source → reads source name →
    (∃ remarks, reports[i]? = some remarks ∧ Faulty remarks) →
      excused i ∨ ∃ remarks, reports[j]? = some remarks ∧ Faulty remarks

/-- The errors of an expression taint the readers of its output.  Over a table this leaves out an
expression that can only be MISSING. -/
theorem readers_tainted (length : expressions.length = outputs.length) (vars : FlowVariables) :
    (∀ table, TaintsReaders ReadsColumn
      (fun i => ((rowMapper table vars expressions outputs)[i]?).map (·.inferredType) =
        some ValueType.missing.base.name)
      expressions outputs ((rowMapper table vars expressions outputs).map (·.diagnostics))) ∧
    TaintsReaders ReadsVariable (fun _ => False) expressions outputs
      (flowVariables vars expressions outputs) := by
  refine ⟨fun table i j name source feeds hj reads broken => ?_,
    fun i j name source feeds hj reads broken => ?_⟩
  · obtain ⟨e, parsed, node, hnode, reads⟩ := reads
    obtain ⟨remarks, hi, faulty⟩ := broken
    cases table with
    | none =>
        refine .inr ⟨[.error noInputTable none], ?_, ⟨_, .head _, rfl⟩⟩
        rw [rowMapper, List.getElem?_map, List.getElem?_map, hj]
        rfl
    | some t =>
        -- What the reader finds under the name is the error of the producer.
        obtain ⟨earlier, before, output, after, atI, atJ, found⟩ :=
          checkInOrder_feeds (mapperStep vars (appended outputs t.hasColumn)) 0
            (t.schema.map .ok) length feeds hj
        simp only [rowMapper, List.getElem?_map, atI, atJ, Option.map_some,
          Option.some.injEq] at hi ⊢
        subst hi
        obtain missing | ⟨message, invalid⟩ := mapperStep_faulty faulty
        · exact .inl missing
        · refine .inr ⟨_, rfl, mapperStep_reads parsed hnode reads fun t readable => ?_⟩
          rw [found, invalid] at readable
          cases readable
  · obtain ⟨e, parsed, node, hnode, reads⟩ := reads
    obtain ⟨remarks, hi, faulty⟩ := broken
    obtain ⟨earlier, before, output, after, atI, atJ, found⟩ :=
      checkInOrder_feeds (variableStep (appended outputs vars.contains)) 0
        ⟨vars.names.map fun name => (name, vars.typeOf name)⟩ length feeds hj
    rw [flowVariables, atI, Option.some.injEq] at hi
    subst hi
    obtain ⟨reason, invalid⟩ := variableStep_faulty faulty
    exact .inr ⟨_, atJ, variableStep_reads parsed hnode reads (invalid ▸ found)⟩

namespace Sample

/-- The second expression reads what the first one would append, the last one is typed over it. -/
def chain : List String := ["$nowhere", "$x + 1", "COLUMN_SUM(ignore_nan=TRUE, column=\"y\")"]

def chained : List String := ["x", "y", "z"]

theorem chain_tainted :
    chain.length = chained.length ∧
      ((∀ table, TaintsReaders ReadsColumn
        (fun i => ((rowMapper table .empty chain chained)[i]?).map (·.inferredType) =
          some ValueType.missing.base.name)
        chain chained ((rowMapper table .empty chain chained).map (·.diagnostics))) ∧
      TaintsReaders ReadsVariable (fun _ => False) chain chained
        (flowVariables .empty chain chained)) :=
  have length : chain.length = chained.length := rfl
  ⟨length, readers_tainted length .empty⟩

/-- An expression that can only be MISSING, and one that reads its output. -/
def missing : List String := ["MISSING", "$m ?? 1"]

/-- Without the exception for expressions that can only be MISSING, readers are not tainted. -/
theorem missing_untainted :
    ¬ TaintsReaders ReadsColumn (fun _ => False) missing ["m", "k"]
      ((rowMapper (some Runner.Sample.counted) .empty missing ["m", "k"]).map (·.diagnostics)) := by
  have reports : (rowMapper (some Runner.Sample.counted) .empty missing ["m", "k"]).map
      (·.diagnostics) = [[.error Runner.mustNotBeMissing (some ⟨0, 7⟩)], []] := by
    decide +kernel
  have reads : ReadsColumn "$m ?? 1" "m" := by
    have found : (parse "$m ?? 1").toOption.any
        (·.nodes.any fun node => node.readColumn? == some "m") = true := by decide +kernel
    unfold ReadsColumn
    cases parsed : parse "$m ?? 1" with
    | error issue =>
        rw [parsed] at found
        cases found
    | ok e =>
        rw [parsed] at found
        obtain ⟨node, hnode, read⟩ := List.any_eq_true.mp found
        exact ⟨e, rfl, node, hnode, beq_iff_eq.mp read⟩
  have feeds : Feeds ["m", "k"] "m" 0 1 :=
    ⟨Nat.one_pos, rfl, fun k hk hk' => absurd hk' (Nat.not_lt.mpr hk)⟩
  intro tainted
  rw [reports] at tainted
  obtain impossible | ⟨remarks, silent, d, hd, _⟩ :=
    tainted 0 1 "m" "$m ?? 1" feeds rfl reads ⟨_, rfl, _, .head _, rfl⟩
  · exact impossible
  · cases silent
    cases hd

end Sample

end Diagnostics

end Rowwise
