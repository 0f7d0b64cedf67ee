import Rowwise.Diagnostics
import Rowwise.Proofs.Runs.Outputs
import Rowwise.Proofs.Typing.Structure

/-!
# The checks of an editor and a run

The checks thread an overlay of column types through the expressions, a run threads tables.  The
invariant that relates the two is `Diagnostics.Mirrors`: the overlay has the type of every column
of the table, and says of none that it is invalid.  Under it both compile an expression over the
same context, so that they accept the same expressions, and then store a column of the same type
(`Diagnostics.step_agrees`).

What the checks ask beyond that is that no expression reads a column before it is appended.  There
is no such column in the table of the run either, so such an expression does not compile:
`Diagnostics.premature_eq_nil`.
-/

namespace Rowwise

open Runner

namespace Diagnostics

variable {t u : Table} {vars : FlowVariables} {start : ZonedDateTime} {index : Nat}
  {columns : Overlay} {before rest expressions outputs : List String} {source name : String}

/-- Outputs that replace the columns of a table and append the others. -/
def outputsOver (t : Table) (expressions outputs : List String) : List (String × Output) :=
  List.zipWith
    (fun source name => (name, { source, mode := if t.hasColumn name then .replace else .append }))
    expressions outputs

/-! ## One context -/

/-- The columns that the checks see are those of a table, all of them valid. -/
def Mirrors (columns : Overlay) (u : Table) : Prop :=
  ∀ name, columns.get? name = (u.columns.get? name).map fun column => .ok column.type

theorem mirrors_schema (t : Table) : Mirrors (t.schema.map .ok) t := by
  intro name
  rw [Named.get?_map, Table.schema, Named.get?_map, Option.map_map]
  rfl

/-- Storing a column keeps the overlay and the table together. -/
theorem Mirrors.insert (h : Mirrors columns u) (name : String) (column : Column) :
    Mirrors (columns.insert name (.ok column.type))
      { u with columns := u.columns.insert name column } := by
  intro key
  simp only [Named.get?_insert]
  split
  · rfl
  · exact h key

theorem Mirrors.overlayType_eq (h : Mirrors columns u) : overlayType columns = u.columnType := by
  funext ref
  have found : ref.name?.bind columns.get? =
      (ref.name?.bind u.columns.get?).map fun column => .ok column.type := by
    cases ref.name? with
    | none => rfl
    | some name => exact h name
  unfold overlayType Table.columnType
  rw [found]
  cases ref.name?.bind u.columns.get? with
  | none => rfl
  | some column => rfl

/-- Checks and run type an expression over the same names. -/
theorem Mirrors.context_eq (h : Mirrors columns u) :
    { rowContext default vars with column := overlayType columns } = rowContext u vars := by
  rw [h.overlayType_eq]
  rfl

/-! ## Reading too early -/

/-- The columns after some outputs are those before them and the outputs. -/
def Extends (t : Table) (before : List String) (u : Table) : Prop :=
  ∀ name, u.hasColumn name = true ↔ t.hasColumn name = true ∨ name ∈ before

theorem extends_nil (t : Table) : Extends t [] t := fun name => by simp

theorem Extends.insert (h : Extends t before u) (name : String) (column : Column) :
    Extends t (before ++ [name]) { u with columns := u.columns.insert name column } := by
  intro key
  have here := h key
  simp only [Table.hasColumn, Named.contains, Named.get?_insert, List.mem_append,
    List.mem_singleton] at here ⊢
  by_cases same : key = name
  · simp [same]
  · simp [same, here]

/-- The names that are appended are outputs that the table does not have. -/
theorem mem_appended {isThere : String → Bool} :
    some name ∈ appended outputs isThere ↔ name ∈ outputs ∧ isThere name = false := by
  simp only [appended, List.mem_map]
  constructor
  · rintro ⟨output, member, h⟩
    cases there : isThere output with
    | true => simp [there] at h
    | false =>
        simp only [there, Bool.false_eq_true, if_false, Option.some.injEq] at h
        exact h ▸ ⟨member, there⟩
  · rintro ⟨member, there⟩
    exact ⟨name, member, by simp [there]⟩

/-- An access that was typed over a table reads a column of it. -/
theorem hasColumn_of_columnType {offset : Int64} {type : ValueType}
    (h : u.columnType (.named name offset) = .ok type) : u.hasColumn name = true := by
  obtain ⟨_, _, found, _⟩ := Table.columnType_named.mp h
  rw [Table.hasColumn, Named.contains, found]
  rfl

/-- What an expression reads that was typed over a table is there. -/
theorem hasColumn_of_read {e node : Expr}
    (typed : (e.infer (rowContext u vars)).1.WellTyped (rowContext u vars)) (hnode : node ∈ e.nodes)
    (reads : columnAccess.read? node = some name) : u.hasColumn name = true := by
  obtain ⟨annotated, member, same⟩ :
      ∃ annotated ∈ (e.infer (rowContext u vars)).1.nodes, annotated.erase = node.erase :=
    Expr.exists_mem_nodes_infer hnode
  cases node <;> try cases reads
  next note ref =>
    obtain ⟨note', rfl⟩ := Expr.erase_eq_column same
    obtain ⟨type, served, _⟩ := typed.of_mem_nodes _ member
    cases ref <;> cases reads
    exact hasColumn_of_columnType served

/-- An expression that compiles over the table after some outputs reads nothing that only a later
output appends. -/
theorem premature_eq_nil {e : Expr} (extends_ : Extends t before u)
    (typed : (e.infer (rowContext u vars)).1.WellTyped (rowContext u vars)) :
    premature columnAccess before.length (appended (before ++ rest) t.hasColumn) e = [] := by
  refine List.filterMap_eq_nil_iff.mpr fun node hnode => ?_
  cases reads : columnAccess.read? node with
  | none => rfl
  | some name =>
      have there := hasColumn_of_read typed hnode reads
      cases owner : (appended (before ++ rest) t.hasColumn).findIdx? (· == some name) with
      | none => simp [owner]
      | some position =>
          -- The column is new, so that the table has got it from one of the earlier outputs.
          have new : t.hasColumn name = false := by
            obtain ⟨lt, found, _⟩ := List.findIdx?_eq_some_iff_getElem.mp owner
            have member := List.getElem_mem lt
            rw [beq_iff_eq.mp found] at member
            exact (mem_appended.mp member).2
          have earlier : name ∈ before :=
            ((extends_ name).mp there).resolve_left (by simp [new])
          have taken : (appended (before ++ rest) t.hasColumn).take before.length =
              appended before t.hasColumn := by
            simp [appended]
          have listed : some name ∈ appended before t.hasColumn := mem_appended.mpr ⟨earlier, new⟩
          simp [owner, taken, listed]

/-! ## One expression -/

/-- What is parsed either is typed over the built-in functions and aggregations and leaves a
well-typed tree, or gives at least one error. -/
theorem infer_cases {e : Expr} (parsed : parse source = .ok e) (ctx : TypingContext)
    (functions : ctx.functions = Functions.library)
    (aggregations : ctx.aggregations = Aggregation.library) :
    (∃ type, compile source ctx = .ok ((e.infer ctx).1, type) ∧ (e.infer ctx).2 = .ok type ∧
      (e.infer ctx).1.WellTyped ctx) ∨
    ∃ errors, compile source ctx = .error errors ∧ (e.infer ctx).2 = .error errors ∧
      errors ≠ [] := by
  have agree : TypingContext.Agree [ctx] :=
    TypingContext.agree_of_libraries (by simp [functions]) (by simp [aggregations])
  have untyped := (Expr.parsed_of_parse parsed).untyped
  have sound := Expr.infer_sound agree (.head _) untyped.coherent
  have honest := sound.honest
  have wellTyped : ∀ type, (e.infer ctx).2 = .ok type → (e.infer ctx).1.WellTyped ctx :=
    fun _ => sound.wellTyped
  simp only [compile, parsed]
  clear sound
  generalize e.infer ctx = outcome at honest wellTyped ⊢
  obtain ⟨typed, errors | type⟩ := outcome
  · exact .inr ⟨errors, rfl, rfl, fun none => honest (congrArg _ none)⟩
  · exact .inl ⟨type, rfl, rfl, wellTyped type rfl⟩

/-- A step of a run either is what the checks accept, or it is refused and the checks have a
remark. -/
theorem step_agrees (vars : FlowVariables) (start : ZonedDateTime) (rest : List String) {o : Output}
    (mirrors : Mirrors columns u) (extends_ : Extends t before u) (new : name ∉ before)
    (mode : o.mode = if t.hasColumn name then .replace else .append) :
    (∃ e type, (Stage.mk (before.length + 1) name o u e type).Prepared vars ∧
      mapperStep vars (appended (before ++ rest) t.hasColumn) before.length o.source name columns =
        (⟨[], type.base.name⟩, .ok (.supported type))) ∨
    ((mapperStep vars (appended (before ++ rest) t.hasColumn) before.length o.source name
        columns).1.diagnostics ≠ [] ∧
      ∃ cause, runOne (before.length + 1) name o vars start u = .error cause ∧ cause.Refuses) := by
  have allowed : checkMode (before.length + 1) name o.mode u = .ok () := by
    rw [checkMode_ok, extends_ name, or_iff_left new, mode]
    cases t.hasColumn name <;> simp
  -- What cannot be prepared is refused, by the cases of a run.
  have refused (unprepared : ∀ e type,
      ¬ (Stage.mk (before.length + 1) name o u e type).Prepared vars) :
      ∃ cause, runOne (before.length + 1) name o vars start u = .error cause ∧ cause.Refuses :=
    (runOne_cases _ name o vars start u).resolve_left fun ⟨e, type, h⟩ => unprepared e type h
  unfold mapperStep
  cases parsed : parse o.source with
  | error issue =>
      refine .inr ⟨List.cons_ne_nil _ _, refused fun e type h => ?_⟩
      have compiled := h.compiled
      simp only [compile, parsed] at compiled
      cases compiled
  | ok e =>
      simp only [mirrors.context_eq]
      obtain ⟨type, compiled, inferred, typed⟩ | ⟨errors, compiled, inferred, some_⟩ :=
        infer_cases parsed (rowContext u vars) rowContext_functions rowContext_aggregations
      · rw [premature_eq_nil extends_ typed, inferred]
        dsimp only
        cases valued : type.isMissing with
        | false => exact .inl ⟨_, type, ⟨allowed, compiled, valued⟩, by simp⟩
        | true =>
            refine .inr ⟨by simp, refused fun e' type' h => ?_⟩
            cases compiled.symm.trans h.compiled
            exact absurd (valued.symm.trans h.valued) (by simp)
      · refine .inr ⟨?_, refused fun e' type' h => nomatch compiled.symm.trans h.compiled⟩
        rw [inferred]
        cases premature columnAccess before.length (appended (before ++ rest) t.hasColumn) e with
        | cons d ds => exact List.cons_ne_nil _ _
        | nil => exact fun none => some_ (List.map_eq_nil_iff.mp none)

/-- An expression that may be run either has its column stored, or fails for what it computes. -/
theorem runOne_of_prepared {s : Stage} (h : s.Prepared vars) (start : ZonedDateTime) :
    (∃ cells warning, runOne s.index s.name s.output vars start s.table =
      .ok ({ s.table with columns := s.table.columns.insert s.name ⟨.supported s.type, cells⟩ },
        warning)) ∨
    ∃ cause, runOne s.index s.name s.output vars start s.table = .error cause ∧
      ¬ cause.Refuses := by
  rw [h.runOne_eq start]
  cases values : s.values vars start with
  | error cause =>
      refine .inr ⟨cause, rfl, ?_⟩
      unfold Stage.values evaluateRows at values
      cases built : (s.expr.build (s.table.host vars)).bind (·.coerce s.type.base) with
      | error failure =>
          rw [built] at values
          cases values
          exact id
      | ok c =>
          simp only [built, Except.mapError, Except.ok_bind] at values
          generalize (valuesOf c start s.table.rowCount).run {} = read at values
          obtain ⟨failure | _, _⟩ := read <;> cases values
          exact id
  | ok result =>
      obtain ⟨cells, warnings⟩ := result
      dsimp only
      cases set : s.table.setColumn s.name s.type cells with
      | error cause => exact .inr ⟨.table cause, rfl, id⟩
      | ok stored =>
          obtain ⟨_, _, rfl⟩ := Table.setColumn_ok set
          exact .inl ⟨cells.toArray, warnings.head?, rfl⟩

/-! ## All expressions -/

theorem map_fst_outputsOver (t : Table) (length : expressions.length = outputs.length) :
    (outputsOver t expressions outputs).map (·.1) = outputs := by
  induction expressions generalizing outputs with
  | nil => exact (List.length_eq_zero_iff.mp length.symm).symm
  | cons source expressions ih =>
      cases outputs with
      | nil => cases length
      | cons name outputs =>
          show name :: (outputsOver t expressions outputs).map (·.1) = name :: outputs
          rw [ih (Nat.succ.inj length)]

theorem length_checkInOrder {α β : Type} (step : Nat → String → String → Named α → β × α)
    (index : Nat) (expressions outputs : List String) (seen : Named α) :
    (checkInOrder step index expressions outputs seen).length = expressions.length := by
  induction expressions generalizing index outputs seen with
  | nil => rfl
  | cons source expressions ih => exact congrArg (· + 1) (ih ..)

/-- What the checks say of a list of outputs is what a run comes to. -/
structure Agrees (outputs : List String) (reports : List MapperReport)
    (result : Except RunError (WithWarnings Table)) : Prop where
  /-- There is a report on every output. -/
  counted : reports.length = outputs.length
  /-- If nothing is reported, the run refuses no expression. -/
  accepted : (∀ report ∈ reports, report.diagnostics = []) →
    ∀ cause, result = .error cause → ¬ cause.Refuses
  /-- If the run succeeds, nothing is reported but the types of the columns. -/
  succeeded : ∀ done, result = .ok done → ∀ (i : Nat) (report : MapperReport),
    reports[i]? = some report → report.diagnostics = [] ∧
      ∃ name type cells, outputs[i]? = some name ∧
        done.result.columns.get? name = some ⟨.supported type, cells⟩ ∧
        report.inferredType = type.base.name

namespace Agrees

variable {reports : List MapperReport} {report : MapperReport} {cause : RunError}
  {result : Except RunError (WithWarnings Table)} {type : ValueType} {warning : Option String}

theorem refused (counted : reports.length = outputs.length) (remark : report.diagnostics ≠ []) :
    Agrees (name :: outputs) (report :: reports) (.error cause) where
  counted := congrArg (· + 1) counted
  accepted none := absurd (none report (.head _)) remark
  succeeded _ impossible := nomatch impossible

theorem failed (counted : reports.length = outputs.length) (other : ¬ cause.Refuses) :
    Agrees outputs reports (.error cause) where
  counted := counted
  accepted _ _ same := by
    cases same
    exact other
  succeeded _ impossible := nomatch impossible

/-- An expression that both accept, before others, the column of which stays. -/
theorem cons (rest : Agrees outputs reports result)
    (stays : ∀ done, result = .ok done →
      ∃ cells, done.result.columns.get? name = some ⟨.supported type, cells⟩) :
    Agrees (name :: outputs) (⟨[], type.base.name⟩ :: reports)
      (result.map fun done => { done with warnings := warning :: done.warnings }) where
  counted := congrArg (· + 1) rest.counted
  accepted none cause failed := by
    refine rest.accepted (fun report member => none report (.tail _ member)) cause ?_
    cases result with
    | error failure =>
        cases failed
        rfl
    | ok done => cases failed
  succeeded done ran i report reported := by
    cases result with
    | error failure => cases ran
    | ok finished =>
        cases ran
        cases i with
        | zero =>
            cases reported
            obtain ⟨cells, found⟩ := stays finished rfl
            exact ⟨rfl, name, type, cells, rfl, found, rfl⟩
        | succ i => exact rest.succeeded finished rfl i report reported

end Agrees

theorem checkInOrder_cons {α β : Type} {step : Nat → String → String → Named α → β × α}
    {seen : Named α} {report : β} {outcome : α}
    (checked : step index source name seen = (report, outcome)) :
    checkInOrder step index (source :: expressions) (name :: outputs) seen =
      report :: checkInOrder step (index + 1) expressions outputs (seen.insert name outcome) := by
  rw [checkInOrder, List.headD_cons, List.tail_cons, checked]

/-- Checks and run agree on the outputs that are left, whatever came before. -/
theorem agrees_inOrder (before : List String) (mirrors : Mirrors columns u)
    (extends_ : Extends t before u)
    (distinct : (before ++ outputs).Nodup) (length : expressions.length = outputs.length) :
    Agrees outputs
      (checkInOrder (mapperStep vars (appended (before ++ outputs) t.hasColumn)) before.length
        expressions outputs columns)
      (inOrder (fun index name o => runOne index name o vars start) (before.length + 1)
        (outputsOver t expressions outputs) u) := by
  -- The induction is on the expressions; the overlay mirrors the table that the run has come to.
  induction expressions generalizing before outputs columns u with
  | nil =>
      obtain rfl := List.length_eq_zero_iff.mp length.symm
      refine ⟨rfl, fun _ cause impossible => ?_, fun done _ i report none => ?_⟩
      · cases impossible
      · cases none
  | cons source expressions ih =>
      cases outputs with
      | nil => cases length
      | cons name outputs =>
          have length : expressions.length = outputs.length := Nat.succ.inj length
          have new : name ∉ before := fun old =>
            (List.nodup_append.mp distinct).2.2 name old name (.head _) rfl
          let o : Output := { source, mode := if t.hasColumn name then .replace else .append }
          change Agrees _ _ (inOrder _ _ ((name, o) :: outputsOver t expressions outputs) u)
          obtain ⟨e, type, prepared, checked⟩ | ⟨remark, cause, refused, _⟩ :=
            step_agrees vars start (name :: outputs) mirrors extends_ new (show o.mode = _ from rfl)
          · obtain ⟨cells, warning, stored⟩ | ⟨cause, failed, other⟩ :=
              runOne_of_prepared prepared start
            · -- The column is stored with the type that the overlay gets, and the rest goes on.
              rw [checkInOrder_cons checked, inOrder_cons_ok stored]
              have position : before.length + 1 = (before ++ [name]).length := by simp
              rw [List.append_cons] at distinct ⊢
              rw [position]
              refine .cons (ih (before ++ [name]) (mirrors.insert name ⟨.supported type, cells⟩)
                (extends_.insert name _) distinct length) fun done ran => ⟨cells, ?_⟩
              have other : name ∉ (outputsOver t expressions outputs).map (·.1) := by
                rw [map_fst_outputsOver t length]
                exact fun later => (List.nodup_append.mp distinct).2.2 name (by simp) name later rfl
              rw [(frame_of_inOrder ran).others name other, Named.get?_insert, if_pos rfl]
            · rw [inOrder_cons_error failed]
              exact .failed ((length_checkInOrder ..).trans (congrArg (· + 1) length)) other
          · -- A remark of the checks is a refusal of the run, which ends here.
            rw [inOrder_cons_error refused]
            exact .refused ((length_checkInOrder ..).trans length) remark

/-- The checks of an editor agree with a run that replaces the columns which are there and appends
the others. -/
theorem rowMapper_agrees (distinct : outputs.Nodup) (length : expressions.length = outputs.length)
    (t : Table) (vars : FlowVariables) (start : ZonedDateTime) :
    Agrees outputs (rowMapper (some t) vars expressions outputs)
      ((ofOutputs (outputsOver t expressions outputs)).run t vars start) := by
  have names : ((outputsOver t expressions outputs).map (·.1)).Nodup := by
    rw [map_fst_outputsOver t length]
    exact distinct
  rw [run_ofOutputs names]
  exact agrees_inOrder [] (mirrors_schema t) (extends_nil t) distinct length

namespace Sample

/-- An output that is appended, and one that is replaced by what it reads of the first. -/
def results : List String := ["x", "n"]

def sources : List String := ["$n + 1", "$x * 2.0"]

theorem outputs_agree :
    results.Nodup ∧ sources.length = results.length ∧
      Agrees results (rowMapper (some Runner.Sample.counted) .empty sources results)
        ((ofOutputs (outputsOver Runner.Sample.counted sources results)).run
          Runner.Sample.counted .empty default) :=
  have distinct : results.Nodup := by decide
  have length : sources.length = results.length := by decide
  ⟨distinct, length, rowMapper_agrees distinct length Runner.Sample.counted .empty default⟩

end Sample

end Diagnostics

end Rowwise
