import Rowwise.Proofs.Runner

/-!
# Lists of outputs

A runner is made from a list of outputs, and running it is running its members one after the
other: `Runner.inTurn` feeds a table through one runner for each output, and `Runner.run_inTurn`
says that this ends with the same table, the same warnings or the same failure.

The argument has two parts.  A step knows its number only by writing it into its error
(`Runner.runOne_numbered`), so a step within a list is the step of a runner of its own, up to that
number.  And a step that succeeds has stored one column and nothing else (`Runner.runOne_stored`),
so what a run keeps (`Runner.Frame`) follows by induction over the list.
-/

namespace Rowwise

/-! ## Collections of distinct things -/

namespace Named

variable {α : Type}

theorem insertEntry_of_new {name : String} {a : α} {entries : List (String × α)}
    (new : name ∉ entries.map (·.1)) : insertEntry name a entries = entries ++ [(name, a)] := by
  induction entries with
  | nil => rfl
  | cons entry rest ih =>
      obtain ⟨n, b⟩ := entry
      rw [List.map_cons, List.mem_cons, not_or] at new
      rw [insertEntry, if_neg fun same => new.1 same.symm, ih new.2, List.cons_append]

/-- The collection of things that are inserted one after the other. -/
def ofEntries (entries : List (String × α)) : Named α :=
  entries.foldl (fun c entry => c.insert entry.1 entry.2) .empty

/-- Things under distinct names stand in the order in which they were inserted. -/
theorem entries_ofEntries {entries : List (String × α)} (distinct : (entries.map (·.1)).Nodup) :
    (ofEntries entries).entries = entries := by
  have fold : ∀ (rest before : List (String × α)), ((before ++ rest).map (·.1)).Nodup →
      (rest.foldl (fun c entry => c.insert entry.1 entry.2) ⟨before⟩ : Named α).entries =
        before ++ rest := by
    intro rest
    induction rest with
    | nil => intro before _; exact (List.append_nil before).symm
    | cons entry rest ih =>
        intro before distinct
        obtain ⟨name, a⟩ := entry
        have new : name ∉ before.map (·.1) := by
          rw [List.map_append, List.map_cons, List.nodup_append] at distinct
          exact fun old => distinct.2.2 name old name (.head _) rfl
        have split : before ++ (name, a) :: rest = before ++ [(name, a)] ++ rest :=
          List.append_cons ..
        rw [split] at distinct ⊢
        rw [List.foldl_cons, insert, insertEntry_of_new new]
        exact ih _ distinct
  exact fold entries [] distinct

/-- The names of a collection are those under which something is found. -/
theorem contains_iff {c : Named α} {name : String} : c.contains name = true ↔ name ∈ c.names := by
  obtain ⟨entries⟩ := c
  simp only [contains, get?, names]
  induction entries with
  | nil => simp
  | cons entry rest ih =>
      obtain ⟨n, b⟩ := entry
      by_cases same : name = n
      · simp [same]
      · simp [lookup_cons_of_ne same, same, ih]

end Named

/-- The same failure of the expression with another number. -/
def RunError.numbered (index : Nat) : RunError → RunError
  | .compile _ errors => .compile index errors
  | .evaluation _ cause => .evaluation index cause
  | .invalidResult _ reason => .invalidResult index reason
  | .unknownColumn _ name => .unknownColumn index name
  | .columnExists _ name => .columnExists index name
  | .table cause => .table cause

namespace Runner

variable {t t' : Table} {vars : FlowVariables} {start : ZonedDateTime} {index : Nat} {name : String}
  {o : Output} {outputs : List (String × Output)} {warning : Option String}

/-- The runner of a list of outputs. -/
abbrev ofOutputs (outputs : List (String × Output)) : Runner := .ofEntries outputs

/-! ## One step -/

/-- The number of a step shows in its failures only. -/
theorem runOne_numbered (index : Nat) (name : String) (o : Output) (vars : FlowVariables)
    (start : ZonedDateTime) (t : Table) :
    runOne index name o vars start t =
      (runOne 1 name o vars start t).mapError (.numbered index) := by
  have mode : checkMode index name o.mode t =
      (checkMode 1 name o.mode t).mapError (.numbered index) := by
    unfold checkMode
    split <;> rfl
  have values (e : Expr) (type : ValueType) : evaluateRows index e type t vars start =
      (evaluateRows 1 e type t vars start).mapError (.numbered index) := by
    unfold evaluateRows
    cases (e.build (t.host vars)).bind (·.coerce type.base) with
    | error cause => rfl
    | ok c =>
        simp only [Except.mapError, Except.ok_bind]
        rcases (valuesOf c start t.rowCount).run {} with ⟨_ | _, _⟩
        · rfl
        · rfl
  unfold runOne compileAt
  rw [mode]
  cases checkMode 1 name o.mode t with
  | error cause => rfl
  | ok _ =>
      simp only [Except.mapError, Except.ok_bind]
      cases compile o.source (rowContext t vars) with
      | error errors => rfl
      | ok result =>
          obtain ⟨e, type⟩ := result
          simp only [Except.ok_bind]
          cases type.isMissing with
          | true => rfl
          | false =>
              simp only [Bool.false_eq_true, if_false, values e type]
              cases evaluateRows 1 e type t vars start with
              | error cause => rfl
              | ok result =>
                  obtain ⟨values, warnings⟩ := result
                  simp only [Except.mapError, Except.ok_bind]
                  cases t.setColumn name type values with
                  | error cause => rfl
                  | ok t' => rfl

/-- A step that succeeds was prepared, and has stored one column. -/
theorem runOne_stored (h : runOne index name o vars start t = .ok (t', warning)) :
    ∃ s values warnings, s = Stage.mk index name o t s.expr s.type ∧ s.Prepared vars ∧
      s.values vars start = .ok (values, warnings) ∧ values.length = t.rowCount ∧
      (∀ v ∈ values, v.HasType s.type) ∧ warning = warnings.head? ∧
      t' = { t with columns := t.columns.insert name ⟨.supported s.type, values.toArray⟩ } := by
  obtain ⟨e, type, prepared⟩ | ⟨cause, refused, _⟩ := runOne_cases index name o vars start t
  · have eq := prepared.runOne_eq start
    dsimp only at eq
    rw [h] at eq
    split at eq
    · next values warnings computed =>
        split at eq
        · next stored set =>
            cases eq
            obtain ⟨length, typed, rfl⟩ := Table.setColumn_ok set
            exact ⟨_, values, warnings, rfl, prepared, computed, length, typed, rfl, rfl⟩
        · cases eq
    · cases eq
  · rw [h] at refused
    cases refused

/-- A column that may be stored is there exactly when it is to be replaced. -/
theorem checkMode_ok {mode : InsertionMode} :
    checkMode index name mode t = .ok () ↔ (t.hasColumn name = true ↔ mode = .replace) := by
  cases mode <;> cases there : t.hasColumn name <;> simp [checkMode, there]

/-! ## What a run keeps -/

/-- What computing outputs leaves as it is: the rows, the places of the columns, to which the
appended ones are added in order, and every column that is not an output. -/
structure Frame (outputs : List (String × Output)) (t t' : Table) : Prop where
  rowIds : t'.rowIds = t.rowIds
  names : t'.columns.names =
    t.columns.names ++ (outputs.filter (·.2.mode = .append)).map (·.1)
  others : ∀ name, name ∉ outputs.map (·.1) → t'.columns.get? name = t.columns.get? name

theorem Frame.nil (t : Table) : Frame [] t t where
  rowIds := rfl
  names := by simp
  others _ _ := rfl

theorem Frame.append {before after : List (String × Output)} {t₁ t₂ t₃ : Table}
    (first : Frame before t₁ t₂) (second : Frame after t₂ t₃) : Frame (before ++ after) t₁ t₃ where
  rowIds := second.rowIds.trans first.rowIds
  names := by
    rw [second.names, first.names, List.filter_append, List.map_append, List.append_assoc]
  others name other := by
    rw [List.map_append, List.mem_append, not_or] at other
    exact (second.others name other.2).trans (first.others name other.1)

theorem frame_of_runOne (h : runOne index name o vars start t = .ok (t', warning)) :
    Frame [(name, o)] t t' := by
  obtain ⟨s, values, warnings, hs, prepared, _, _, _, _, rfl⟩ := runOne_stored h
  rw [hs] at prepared
  have there := checkMode_ok.mp prepared.allowed
  rw [Table.hasColumn, Named.contains_iff] at there
  refine ⟨rfl, ?_, fun other new => ?_⟩
  · show (t.columns.insert name _).names = _
    rw [Named.names_insert]
    cases mode : o.mode with
    | append =>
        have new : name ∉ t.columns.names := fun old => nomatch mode.symm.trans (there.mp old)
        simp [new, mode]
    | replace =>
        have old : name ∈ t.columns.names := there.mpr mode
        simp [old, mode]
  · show (t.columns.insert name _).get? other = _
    rw [List.map_singleton, List.mem_singleton] at new
    rw [Named.get?_insert, if_neg new]

/-- Steps in order keep what each of them keeps. -/
theorem frame_of_inOrder {warnings : List (Option String)}
    (h : inOrder (fun index name o => runOne index name o vars start) index outputs t =
      .ok ⟨t', warnings⟩) : Frame outputs t t' := by
  induction outputs generalizing index t warnings with
  | nil =>
      cases h
      exact .nil _
  | cons entry rest ih =>
      obtain ⟨t₁, warning, more, hstep, hrest, same⟩ := inOrder_cons_inv h
      cases same
      exact (frame_of_runOne hstep).append (ih hrest)

/-! ## One runner after the other -/

/-- Feeds a table through one runner for each output.  A failure comes with the position, from 0,
of the output that failed. -/
def inTurn (vars : FlowVariables) (start : ZonedDateTime) :
    List (String × Output) → Table → Except (Nat × RunError) (WithWarnings Table)
  | [], t => .ok ⟨t, []⟩
  | output :: rest, t =>
    match (ofOutputs [output]).run t vars start with
    | .error cause => .error (0, cause)
    | .ok done =>
      match inTurn vars start rest done.result with
      | .error (position, cause) => .error (position + 1, cause)
      | .ok more => .ok { more with warnings := done.warnings ++ more.warnings }

/-- A failure of one of the runners, as one of the expression in its place. -/
def inPlace (first : Nat) (failure : Nat × RunError) : RunError :=
  failure.2.numbered (first + failure.1)

theorem run_singleton (name : String) (o : Output) (t : Table) (vars : FlowVariables)
    (start : ZonedDateTime) :
    (ofOutputs [(name, o)]).run t vars start =
      (runOne 1 name o vars start t).map fun (t', warning) => ⟨t', [warning]⟩ := by
  show inOrder _ 1 [(name, o)] t = _
  cases hstep : runOne 1 name o vars start t with
  | error cause =>
      rw [inOrder_cons_error hstep]
      rfl
  | ok next =>
      rw [inOrder_cons_ok hstep]
      rfl

/-- Steps in order come to the same as runners in turn. -/
theorem inOrder_eq_inTurn (index : Nat) (outputs : List (String × Output)) (t : Table) :
    inOrder (fun index name o => runOne index name o vars start) index outputs t =
      (inTurn vars start outputs t).mapError (inPlace index) := by
  induction outputs generalizing index t with
  | nil => rfl
  | cons entry rest ih =>
      obtain ⟨name, o⟩ := entry
      have numbered := runOne_numbered index name o vars start t
      rw [inTurn, run_singleton]
      cases hstep : runOne 1 name o vars start t with
      | error cause =>
          rw [hstep] at numbered
          rw [inOrder_cons_error numbered]
          rfl
      | ok next =>
          obtain ⟨t₁, warning⟩ := next
          rw [hstep] at numbered
          rw [inOrder_cons_ok numbered, ih]
          dsimp only [Except.map]
          rcases inTurn vars start rest t₁ with ⟨position, cause⟩ | more
          · -- The number of the rest starts one later, and so does the position in it.
            show Except.error (cause.numbered (index + 1 + position)) =
              Except.error (cause.numbered (index + (position + 1)))
            rw [Nat.add_assoc, Nat.add_comm 1]
          · rfl

/-- The outputs before the one that fails are computed, and those up to it fail as all of them. -/
theorem inTurn_take {position : Nat} {cause : RunError}
    (h : inTurn vars start outputs t = .error (position, cause)) :
    (∃ done, inTurn vars start (outputs.take position) t = .ok done) ∧
      inTurn vars start (outputs.take (position + 1)) t = .error (position, cause) := by
  -- The induction is on the outputs: the first one fails, or the position is one among the others.
  induction outputs generalizing t position with
  | nil => cases h
  | cons output rest ih =>
      rw [inTurn] at h
      cases first : (ofOutputs [output]).run t vars start with
      | error refused =>
          rw [first] at h
          cases h
          refine ⟨⟨⟨t, []⟩, rfl⟩, ?_⟩
          rw [List.take_succ_cons, inTurn, first]
      | ok done =>
          rw [first] at h
          dsimp only at h
          cases others : inTurn vars start rest done.result with
          | ok more =>
              rw [others] at h
              cases h
          | error failure =>
              obtain ⟨before, refused⟩ := failure
              rw [others] at h
              cases h
              obtain ⟨⟨more, computed⟩, fails⟩ := ih others
              refine ⟨⟨{ more with warnings := done.warnings ++ more.warnings }, ?_⟩, ?_⟩
              · rw [List.take_succ_cons, inTurn, first]
                dsimp only
                rw [computed]
              · rw [List.take_succ_cons, inTurn, first]
                dsimp only
                rw [fails]

/-! ## Running a list -/

/-- Running a list is running its members one after the other, and nothing else changes. -/
structure RunsInTurn (outputs : List (String × Output)) (t : Table) (vars : FlowVariables)
    (start : ZonedDateTime) : Prop where
  /-- The results are equal; failures are equal up to the number of the expression. -/
  same : (ofOutputs outputs).run t vars start =
    (inTurn vars start outputs t).mapError (inPlace 1)
  /-- The list fails at the output at which the members do. -/
  failsAt : ∀ position cause, inTurn vars start outputs t = .error (position, cause) →
    (∃ done, (ofOutputs (outputs.take position)).run t vars start = .ok done) ∧
    (ofOutputs (outputs.take (position + 1))).run t vars start =
      .error (cause.numbered (position + 1))
  frame : ∀ done, (ofOutputs outputs).run t vars start = .ok done → Frame outputs t done.result

theorem run_ofOutputs (distinct : (outputs.map (·.1)).Nodup) (t : Table) (vars : FlowVariables)
    (start : ZonedDateTime) :
    (ofOutputs outputs).run t vars start =
      inOrder (fun index name o => runOne index name o vars start) 1 outputs t := by
  rw [run, Named.entries_ofEntries distinct]

theorem run_inTurn (distinct : (outputs.map (·.1)).Nodup) (t : Table) (vars : FlowVariables)
    (start : ZonedDateTime) : RunsInTurn outputs t vars start := by
  have eq {outputs : List (String × Output)} (distinct : (outputs.map (·.1)).Nodup) :
      (ofOutputs outputs).run t vars start =
        (inTurn vars start outputs t).mapError (inPlace 1) := by
    rw [run_ofOutputs distinct, inOrder_eq_inTurn]
  have taken (n : Nat) : ((outputs.take n).map (·.1)).Nodup := by
    rw [List.map_take]
    exact distinct.sublist (List.take_sublist n _)
  refine ⟨eq distinct, fun position cause fails => ?_, fun done ran => ?_⟩
  · obtain ⟨⟨done, computed⟩, fails⟩ := inTurn_take fails
    refine ⟨⟨done, ?_⟩, ?_⟩
    · rw [eq (taken _), computed]
      rfl
    · rw [eq (taken _), fails, Nat.add_comm]
      rfl
  · rw [run_ofOutputs distinct] at ran
    exact frame_of_inOrder ran

namespace Sample

/-- A table with one column. -/
def counted : Table :=
  { oneRow with columns := ⟨[("n", ⟨.supported (.required .integer), #[.of .integer 1]⟩)]⟩ }

/-- A column that is appended, one that is replaced by what the first one holds, and one that
reads both. -/
def chained : List (String × Output) :=
  [("x", { source := "$n + 1" }), ("n", { source := "$x * 2", mode := .replace }),
    ("y", { source := "$x + $n" })]

theorem chained_runsInTurn :
    (chained.map (·.1)).Nodup ∧ RunsInTurn chained counted .empty default :=
  have distinct : (chained.map (·.1)).Nodup := by decide
  ⟨distinct, run_inTurn distinct counted .empty default⟩

end Sample

end Runner

end Rowwise
